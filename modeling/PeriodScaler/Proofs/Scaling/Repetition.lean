import PeriodScaler.Proofs.Scaling.Tables
import PeriodScaler.Proofs.Text.Decimal

/-!
# A pass that is repeated

What a pass says of an item names the state that the item is to have, not the step that brought it
there. So once an item is where it is to be, a pass finds nothing to do and says the same again, and
an item that fails for its name fails with the same words. This holds of every instance, and of the
workloads whose record, if there is one, reads as a count.

* **`need_again`**: a workload that was scaled needs nothing more, and the comment stays.
* **`WorkloadSelection.settled_parts`**, **`InstanceSelection.settled_parts`**: a second pass over a
  table.
* **`setAll_again`**: a second pass over a world, in which other things may have changed.
-/

namespace PeriodScaler

open Memory (World)
open Memory.Workloads (scaled recorded_scaled_some recorded_scaled_none)

/-! ## One workload -/

/-- A workload that a pass can bring down and up again: its count is one of 32 bits and not
negative, and so is what is recorded, if anything, which is not zero either. -/
structure Workload.IsSound (w : Workload) : Prop where
  nonneg : 0 ≤ w.replicas
  le_max : w.replicas ≤ 2147483647
  record : ∀ raw, w.recorded = some raw → ∃ n, Text.int32? raw.toList = some n ∧ 0 < n

theorem Workload.isSound_iff {w : Workload} : w.IsSound ↔ 0 ≤ w.replicas ∧
    w.replicas ≤ 2147483647 ∧ ∀ raw ∈ w.recorded, ∃ n ∈ Text.int32? raw.toList, 0 < n :=
  ⟨fun h => ⟨h.nonneg, h.le_max, h.record⟩, fun h => ⟨h.1, h.2.1, h.2.2⟩⟩

instance : DecidablePred Workload.IsSound :=
  fun _ => decidable_of_iff _ Workload.isSound_iff.symm

/-- If an access leads to workloads, all of them are sound. -/
def Access.FindsSound (access : Access) (w : World) : Prop :=
  ∀ server, access = .workloads server → ∀ e ∈ w.workloads.entries, e.1.IsSound

namespace WorkloadSelection

variable {target : Target} {w : Workload} {replicas n : Int} {record : Option Int}
  {comment : String}

/-- The count to return to later is positive, and can be read back once it is recorded. -/
theorem toRecord_of_isSound (hw : w.IsSound) (hup : w.replicas ≠ 0) :
    ∃ n, toRecord w = some n ∧ 0 < n ∧ Text.int32? (Text.ofInt n).toList = some n := by
  unfold toRecord
  cases hrecorded : w.recorded with
  | some raw =>
    obtain ⟨n, hn, hpos⟩ := hw.record raw hrecorded
    obtain ⟨hlo, hhi⟩ := Text.int?_bounds hn
    exact ⟨n, hn, hpos, Text.int32?_ofInt hlo hhi⟩
  | none =>
    have hnonneg := hw.nonneg
    have hpos : 0 < w.replicas := by omega
    exact ⟨w.replicas, if_pos hpos, hpos, Text.int32?_ofInt (by omega) hw.le_max⟩

theorem isSound_down (hpos : 0 < n) (hread : Text.int32? (Text.ofInt n).toList = some n) :
    (scaled w 0 (some n)).IsSound where
  nonneg := Int.le_refl 0
  le_max := (by decide : (0 : Int) ≤ 2147483647)
  record raw hraw := by
    obtain rfl := Option.some.inj (recorded_scaled_some.symm.trans hraw)
    exact ⟨n, hread, hpos⟩

theorem isSound_up (hpos : 0 < n) (hmax : n ≤ 2147483647) : (scaled w n none).IsSound where
  nonneg := Int.le_of_lt hpos
  le_max := hmax
  record raw hraw := by
    rw [recorded_scaled_none] at hraw
    cases hraw

/-- Down, and still down. -/
theorem need_down_again (hw : w.IsSound) (h : need .down w = .scale replicas record comment) :
    (scaled w replicas record).IsSound ∧
      need .down (scaled w replicas record) = .nothing comment := by
  have hup : w.replicas ≠ 0 := by
    intro hzero
    rw [need, if_pos hzero] at h
    cases h
  obtain ⟨n, hn, hpos, hread⟩ := toRecord_of_isSound hw hup
  rw [need, if_neg hup, hn] at h
  obtain ⟨rfl, rfl, rfl⟩ := Need.scale.inj h
  refine ⟨isSound_down hpos hread, ?_⟩
  have hagain : toRecord (scaled w 0 (some n)) = some n := by
    rw [toRecord, recorded_scaled_some]
    exact hread
  rw [Option.getD_some, need, hagain]
  exact if_pos rfl

/-- Up, and still up. -/
theorem need_up_again (hw : w.IsSound) (h : need .up w = .scale replicas record comment) :
    (scaled w replicas record).IsSound ∧
      need .up (scaled w replicas record) = .nothing comment := by
  unfold need at h
  cases hrecorded : w.recorded with
  | none =>
    simp only [hrecorded] at h
    split at h <;> cases h
  | some raw =>
    obtain ⟨n, hn, hpos⟩ := hw.record raw hrecorded
    simp only [hrecorded, hn] at h
    obtain ⟨rfl, rfl, rfl⟩ := Need.scale.inj h
    refine ⟨isSound_up hpos (Text.int?_bounds hn).2, ?_⟩
    rw [need, recorded_scaled_none]
    · exact if_pos hpos
    · exact nofun
    · exact nofun

/-- **A workload that was scaled needs nothing more**, and what is said of it stays. -/
theorem need_again (hw : w.IsSound) (h : need target w = .scale replicas record comment) :
    (scaled w replicas record).IsSound ∧
      need target (scaled w replicas record) = .nothing comment := by
  cases target with
  | noAction => cases h
  | down => exact need_down_again hw h
  | up => exact need_up_again hw h
  | restore => exact need_up_again hw h

end WorkloadSelection

/-! ## Sweeps -/

/-- What becomes of an entry leaves it where a sweep finds it and says of it what was said before.
-/
structure Backing.IsSteady {ε β : Type} (s : Sweep β) (b : Backing ε β) (sound : ε → Prop) :
    Prop where
  asks : s.Asks b
  settles : Settles b.after sound
  isAt : ∀ place e, b.isAt place (b.after e) = b.isAt place e
  name : ∀ e, s.name (b.item (b.after e)) = s.name (b.item e)
  report : ∀ e, sound e → b.report (b.after e) = b.report e

theorem Backing.IsSteady.leg {ε β : Type} {s : Sweep β} {b : Backing ε β} {sound : ε → Prop}
    (h : b.IsSteady s sound) (place : String) : (s.leg b place).IsSteady b.after sound where
  after_eq := rfl
  touches e := by simp only [Sweep.leg, h.isAt, h.name]
  name := h.name
  line e he := by simp only [Sweep.leg, h.asks.source_after, h.report e he]

/-- A second pass over a table writes the lines of the first, and leaves the table as it is. -/
structure Part.Settled {ε : Type} (parts : List (Part ε)) (entries : List ε) : Prop where
  ledger : ledger parts (finish parts entries) = ledger parts entries
  finish : finish parts (finish parts entries) = finish parts entries

theorem Part.settled_of_steady {ε : Type} {after : ε → ε} {sound : ε → Prop}
    {parts : List (Part ε)} {entries : List ε} (h : Settles after sound)
    (hparts : ∀ part ∈ parts, ∀ leg ∈ part.legs, leg.IsSteady after sound)
    (hsound : ∀ e ∈ entries, sound e) : Part.Settled parts entries where
  ledger := ledger_finish h hparts hsound
  finish := finish_finish h hparts hsound

/-- Parts that only write lines touch nothing. -/
theorem Part.settled_of_only {ε : Type} {parts : List (Part ε)}
    (h : ∀ part ∈ parts, ∃ lines, part = .only lines) (entries : List ε) :
    Part.Settled parts entries := by
  have hstill : Settles (id : ε → ε) fun _ => True := ⟨fun _ _ => rfl, fun _ => id⟩
  refine settled_of_steady hstill (fun part hpart leg hleg => ?_) fun _ _ => trivial
  obtain ⟨lines, rfl⟩ := h part hpart
  exact absurd hleg List.not_mem_nil

/-- A computation goes over a table of a world as some parts do, which it finds there. -/
structure Part.GoesOver {ε : Type} (p : Work (List (List Line))) (parts : World → List (Part ε))
    (entries : World → List ε) (put : World → List ε → List String → World) : Prop where
  run : ∀ w : World, w.IsOrdered → ∃ log, p.run World.answer w =
    (ledger (parts w) (entries w), put w (finish (parts w) (entries w)) log)
  entries_put : ∀ w items log, entries (put w items log) = items
  parts_put : ∀ w items log, parts (put w items log) = parts w

/-- **A computation that is repeated**, after it has settled a table. -/
theorem Part.GoesOver.again {ε : Type} {p : Work (List (List Line))}
    {parts : World → List (Part ε)} {entries : World → List ε}
    {put : World → List ε → List String → World} (h : Part.GoesOver p parts entries put)
    {w w₁ w₂ : World} {result : List (List Line)} (hw : w.IsOrdered)
    (hsettled : Part.Settled (parts w) (entries w)) (hrun : p.run World.answer w = (result, w₁))
    (hw₂ : w₂.IsOrdered) (hparts : parts w₂ = parts w₁) (hentries : entries w₂ = entries w₁) :
    ∃ log, p.run World.answer w₂ = (result, put w₂ (entries w₂) log) := by
  obtain ⟨log, hfirst⟩ := h.run w hw
  obtain ⟨rfl, rfl⟩ := Prod.mk.inj (hfirst.symm.trans hrun)
  obtain ⟨log', hsecond⟩ := h.run w₂ hw₂
  rw [h.entries_put] at hentries
  rw [h.parts_put] at hparts
  refine ⟨log', ?_⟩
  rw [hsecond, hparts, hentries, hsettled.ledger, hsettled.finish]

/-! ## Workloads -/

namespace WorkloadSelection

variable (w : World) (access : Access) (server : Option String) (workloadKind : WorkloadKind)
  (kind : String) (s : WorkloadSelection) (defaultNamespace : String) (target : Target)

/-- A workload stays as it is, or is scaled. -/
theorem brought_cases (failing : List String) (e : Workload × Labels) :
    brought failing target e = e ∨ ∃ replicas record comment,
      need target e.1 = .scale replicas record comment ∧
        brought failing target e = (scaled e.1 replicas record, e.2) ∧
          ∀ kind, reported failing kind target e.1 = .success kind e.1.item comment := by
  unfold brought reported
  cases need target e.1 with
  | scale replicas record comment =>
    simp only
    split
    · exact Or.inl rfl
    · exact Or.inr ⟨replicas, record, comment, rfl, rfl, fun _ => rfl⟩
  | nothing comment => exact Or.inl rfl
  | impossible reason => exact Or.inl rfl
  | ignore => exact Or.inl rfl

theorem labels_brought (failing : List String) (e : Workload × Labels) :
    (brought failing target e).2 = e.2 := by
  rcases brought_cases target failing e with hstill | ⟨_, _, _, -, hscaled, -⟩
  · rw [hstill]
  · rw [hscaled]

/-- Once brought where it is to be, or kept from it by a failure, a sound workload stays there. -/
theorem brought_again (failing : List String) {e : Workload × Labels} (he : e.1.IsSound) :
    (brought failing target e).1.IsSound ∧
      brought failing target (brought failing target e) = brought failing target e ∧
      ∀ kind, reported failing kind target (brought failing target e).1 =
        reported failing kind target e.1 := by
  rcases brought_cases target failing e with hstill | ⟨_, _, _, hneed, hscaled, hreport⟩
  · rw [hstill]
    exact ⟨he, hstill, fun _ => rfl⟩
  · obtain ⟨hsound, hagain⟩ := need_again he hneed
    rw [hscaled]
    refine ⟨hsound, ?_, fun kind => ?_⟩
    · rw [brought, hagain]
    · rw [hreport, reported, hagain]
      rfl

theorem steady_backing :
    (s.backing w workloadKind kind target).IsSteady (s.sweep server workloadKind kind target)
      fun e => e.1.IsSound where
  asks := s.asks_backing w server workloadKind kind target
  settles :=
    ⟨fun _ he => (brought_again target w.workloads.failingScale he).2.1,
      fun _ he => (brought_again target w.workloads.failingScale he).1⟩
  isAt namespaceName e := by
    have hidentity := identity_brought target w.workloads.failingScale e
    obtain ⟨hkind, hnamespace, -⟩ := Identity.mk.inj hidentity
    simp only [backing, hkind, hnamespace, labels_brought]
  name e := (Identity.mk.inj (identity_brought target w.workloads.failingScale e)).2.2
  report _ he := (brought_again target w.workloads.failingScale he).2.2 kind

/-- **A second pass over workloads.** -/
theorem settled_parts (hsound : access.FindsSound w) (kinds : List String) :
    Part.Settled (kinds.map (s.part w access defaultNamespace target)) w.workloads.entries := by
  cases access with
  | instances credentials =>
    refine Part.settled_of_only (List.forall_mem_map.mpr fun kind _ => ?_) _
    rcases s.part_cases (.instances credentials) defaultNamespace target kind with
      ⟨lines, -, hpart, -⟩ | ⟨server, _, haccess, -⟩
    · exact ⟨lines, hpart w⟩
    · cases haccess
  | workloads server =>
    have hsettles : Settles (brought w.workloads.failingScale target) fun e => e.1.IsSound :=
      (s.steady_backing w server .deployment "" target).settles
    refine Part.settled_of_steady hsettles (List.forall_mem_map.mpr fun kind _ leg hleg => ?_)
      (hsound server rfl)
    rcases s.part_cases (.workloads server) defaultNamespace target kind with
      ⟨lines, -, hpart, -⟩ | ⟨server', workloadKind, -, hpart, -⟩
    · rw [hpart] at hleg
      exact absurd hleg List.not_mem_nil
    · rw [hpart] at hleg
      obtain ⟨namespaceName, -, rfl⟩ := List.mem_map.mp hleg
      exact (s.steady_backing w server' workloadKind kind target).leg namespaceName

/-- What is done for a kind depends on a world by its table only. -/
theorem part_congr {w w' : World} (h : w'.workloads = w.workloads) :
    s.part w' access defaultNamespace target = s.part w access defaultNamespace target := by
  funext kind
  unfold part Sweep.part Sweep.leg backing
  rw [h]

theorem goesOver (kinds : List String) :
    Part.GoesOver (passLines access (.workloads s) defaultNamespace target kinds)
      (fun w => kinds.map (s.part w access defaultNamespace target))
      (fun w => w.workloads.entries) withWorkloads where
  run w hw := s.run_pass w access defaultNamespace target hw kinds
  entries_put _ _ _ := rfl
  parts_put _ _ _ := rfl

end WorkloadSelection

/-! ## Instances -/

namespace InstanceSelection

variable (w : World) (access : Access) (credentials : Credentials) (kind : String)
  (s : InstanceSelection) (defaultNamespace : String) (target : Target)

/-- A machine that was stopped needs nothing more. -/
theorem need_again_of_stop {status : InstanceStatus} (h : need target status = .stop) :
    need target .terminated = .nothing "stopped" := by
  cases target <;> cases status <;> first | rfl | cases h

/-- Nor does one that was started. -/
theorem need_again_of_start {status : InstanceStatus} (h : need target status = .start) :
    need target .running = .nothing "running" := by
  cases target <;> cases status <;> first | rfl | cases h

/-- An instance stays as it is, or is moved to a state in which it needs nothing. -/
theorem brought_cases (failing : List String) (e : String × Instance) :
    brought failing target e = e ∨ ∃ status state,
      need target status = .nothing state ∧
        brought failing target e = (e.1, { e.2 with status }) ∧
          ∀ kind, reported failing kind target e =
            .success kind (e.1 ++ "/" ++ e.2.name) state := by
  unfold brought reported reportedAction
  cases hneed : need target e.2.status with
  | stop =>
    simp only
    split
    · exact Or.inl rfl
    · exact Or.inr ⟨.terminated, "stopped", need_again_of_stop target hneed, rfl, fun _ => rfl⟩
  | start =>
    simp only
    split
    · exact Or.inl rfl
    · exact Or.inr ⟨.running, "running", need_again_of_start target hneed, rfl, fun _ => rfl⟩
  | nothing state => exact Or.inl rfl
  | wait => exact Or.inl rfl

theorem brought_again (failing : List String) (e : String × Instance) :
    brought failing target (brought failing target e) = brought failing target e ∧
      ∀ kind, reported failing kind target (brought failing target e) =
        reported failing kind target e := by
  rcases brought_cases target failing e with hstill | ⟨status, state, hneed, hmoved, hreport⟩
  · rw [hstill]
    exact ⟨hstill, fun _ => rfl⟩
  · rw [hmoved]
    refine ⟨?_, fun kind => ?_⟩
    · rw [brought, hneed]
    · rw [hreport, reported, hneed]

theorem steady_backing :
    (s.backing w kind target).IsSteady (s.sweep credentials kind target) fun _ => True where
  asks := s.asks_backing w credentials kind target
  settles := ⟨fun e _ => (brought_again target w.instances.failingInstances e).1, fun _ => id⟩
  isAt zone e := by
    obtain ⟨hzone, -, hlabels⟩ := brought_eq target w.instances.failingInstances e
    simp only [backing, hzone, hlabels]
  name e := (brought_eq target w.instances.failingInstances e).2.1
  report e _ := (brought_again target w.instances.failingInstances e).2 kind

/-- **A second pass over instances.** -/
theorem settled_parts (kinds : List String) :
    Part.Settled (kinds.map (s.part w access target)) w.instances.entries := by
  have hsettles : Settles (brought w.instances.failingInstances target) fun _ => True :=
    (s.steady_backing w .metadataServer "" target).settles
  refine Part.settled_of_steady hsettles (List.forall_mem_map.mpr fun kind _ leg hleg => ?_)
    fun _ _ => trivial
  rcases s.part_cases access "" target kind with
    ⟨lines, -, hpart, -⟩ | ⟨credentials, -, hpart, -⟩
  · rw [hpart] at hleg
    exact absurd hleg List.not_mem_nil
  · rw [hpart] at hleg
    obtain ⟨zone, -, rfl⟩ := List.mem_map.mp hleg
    exact (s.steady_backing w credentials kind target).leg zone

theorem part_congr {w w' : World} (h : w'.instances = w.instances) :
    s.part w' access target = s.part w access target := by
  funext kind
  unfold part Sweep.part Sweep.leg backing
  rw [h]

theorem goesOver (kinds : List String) :
    Part.GoesOver (passLines access (.instances s) defaultNamespace target kinds)
      (fun w => kinds.map (s.part w access target)) (fun w => w.instances.entries)
      withInstances where
  run w hw := s.run_pass w access defaultNamespace target hw kinds
  entries_put _ _ _ := rfl
  parts_put _ _ _ := rfl

end InstanceSelection

/-! ## A whole pass -/

section Again

variable {access : Access} {s : Selection} {defaultNamespace : String} {target : Target}
  {w w₁ w₂ : World} (hw : w.IsOrdered) (hsound : access.FindsSound w)

include hw hsound

theorem passLines_again {ledger : List (List Line)}
    (h : (passLines access s defaultNamespace target s.types).run World.answer w = (ledger, w₁))
    (hw₂ : w₂.IsOrdered) (hworkloads : w₂.workloads = w₁.workloads)
    (hinstances : w₂.instances = w₁.instances) :
    ∃ w₃, (passLines access s defaultNamespace target s.types).run World.answer w₂ =
        (ledger, w₃) ∧
      w₃.workloads.entries = w₂.workloads.entries ∧
      w₃.instances.entries = w₂.instances.entries := by
  rcases s with s | s
  · have hparts := s.part_congr access target hinstances
    obtain ⟨log, hagain⟩ := (s.goesOver access defaultNamespace target s.types).again hw
      (s.settled_parts w access target s.types) h hw₂ (by simp only [hparts])
      (by simp only [hinstances])
    exact ⟨_, hagain, rfl, rfl⟩
  · have hparts := s.part_congr access defaultNamespace target hworkloads
    obtain ⟨log, hagain⟩ := (s.goesOver access defaultNamespace target s.types).again hw
      (s.settled_parts w access defaultNamespace target hsound s.types) h hw₂
      (by simp only [hparts]) (by simp only [hworkloads])
    exact ⟨_, hagain, rfl, rfl⟩

/-- **A pass that is repeated** reports the same again, and leaves every workload and every instance
as it is. What else has changed in the world in between does not matter. -/
theorem setAll_again {report : Report}
    (h : (setAll access s defaultNamespace target).run World.answer w = (report, w₁))
    (hw₂ : w₂.IsOrdered) (hworkloads : w₂.workloads = w₁.workloads)
    (hinstances : w₂.instances = w₁.instances) :
    ∃ w₃, (setAll access s defaultNamespace target).run World.answer w₂ = (report, w₃) ∧
      w₃.workloads.entries = w₂.workloads.entries ∧
      w₃.instances.entries = w₂.instances.entries := by
  rw [setAll_eq, Program.run_bind] at h
  generalize hpass : (passLines access s defaultNamespace target s.types).run World.answer w = pass
    at h
  obtain ⟨ledger, w₁'⟩ := pass
  obtain ⟨rfl, rfl⟩ := Prod.mk.inj h
  obtain ⟨w₃, hagain, hentries⟩ := passLines_again hw hsound hpass hw₂ hworkloads hinstances
  refine ⟨w₃, ?_, hentries⟩
  rw [setAll_eq, Program.run_bind, hagain]
  rfl

end Again

end PeriodScaler
