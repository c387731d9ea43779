import PeriodScaler.Proofs.Scaling.Reach

/-!
# Scaling down and the records that are there

A workload that is scaled down may have a record already. A record that reads as a count is written
again with the same count, in whichever spelling it was found. One that does not read as a count is
not looked at any further: it gives way to the current count. So it is lost exactly when the
workload is reached, has replicas, and the call to scale it succeeds.

* **`Workload.recordedCount_lowered`**, **`Workload.recorded_lowered`**: what a workload that is
  scaled down records.
* **`WorkloadSelection.brought_down`**, **`WorkloadSelection.failed_reported_down`**: what becomes
  of it, and when it is reported as a failure.
* **`Mutator.stays_setState_down`**: whatever fails or is cancelled, at each call of a pass a
  workload is as it was or is scaled down.
* **`records_when_scaled_down`**: what a pass leaves of the records.
-/

namespace PeriodScaler

open Memory (World Workloads)
open Memory.Workloads (scaled scaledEntries putText recorded_scaled_some)

/-! ## One workload -/

/-- To put a text under a key twice is to put the second one. -/
theorem putText_putText (key value value' : String) : ∀ pairs : Labels,
    putText key value' (putText key value pairs) = putText key value' pairs
  | [] => by
    unfold putText
    rw [Json.textMap?.insert, Json.textMap?.insert, Json.textMap?.insert,
      if_pos (beq_self_eq_true key)]
  | (k, v) :: rest => by
    have hrest := putText_putText key value value' rest
    unfold putText at hrest ⊢
    rw [Json.textMap?.insert, Json.textMap?.insert]
    by_cases hsame : (k == key) = true
    · rw [if_pos hsame, if_pos hsame, Json.textMap?.insert, if_pos (beq_self_eq_true key)]
    · by_cases hbefore : key < k
      · rw [if_neg hsame, if_neg hsame, if_pos hbefore, if_pos hbefore, Json.textMap?.insert,
          if_pos (beq_self_eq_true key)]
      · rw [if_neg hsame, if_neg hsame, if_neg hbefore, if_neg hbefore, Json.textMap?.insert,
          if_neg hsame, if_neg hbefore, hrest]

namespace Workload

variable {w : Workload} {n : Int}

/-- The replica count that the record of a workload reads as. -/
def recordedCount (w : Workload) : Option Int :=
  w.recorded.bind fun raw => Text.int32? raw.toList

/-- There is a record, and it does not read as a replica count. -/
def HasUnreadableRecord (w : Workload) : Prop :=
  ∃ raw, w.recorded = some raw ∧ Text.int32? raw.toList = none

/-- The count that is recorded when a workload is scaled down: the count to return to, the current
one for want of a better one. -/
def countToRecord (w : Workload) : Int :=
  (WorkloadSelection.toRecord w).getD w.replicas

/-- A workload that is scaled down. -/
def lowered (w : Workload) : Workload :=
  scaled w 0 (some w.countToRecord)

/-- To scale down a workload once more, with the same record, changes nothing. -/
theorem scaled_lowered (w : Workload) :
    scaled w.lowered 0 (some w.countToRecord) = w.lowered := by
  unfold lowered scaled
  simp only [putText_putText]

theorem lowered_ne (h : w.replicas ≠ 0) : w.lowered ≠ w :=
  fun heq => h (congrArg Workload.replicas heq).symm

/-- **A record that reads as a count** reads as that count when the workload is scaled down. -/
theorem recordedCount_lowered (h : w.recordedCount = some n) :
    w.lowered.recordedCount = some n := by
  obtain ⟨raw, hraw, hread⟩ := Option.bind_eq_some_iff.mp h
  obtain ⟨hlo, hhi⟩ := Text.int?_bounds hread
  have hrecord : WorkloadSelection.toRecord w = some n := by
    rw [WorkloadSelection.toRecord, hraw]
    exact hread
  rw [recordedCount, lowered, countToRecord, hrecord, recorded_scaled_some]
  exact Text.int32?_ofInt hlo hhi

/-- **One that does not** gives way to the current count. -/
theorem recorded_lowered (h : w.HasUnreadableRecord) :
    w.lowered.recorded = some (Text.ofInt w.replicas) := by
  obtain ⟨raw, hraw, hread⟩ := h
  have hrecord : WorkloadSelection.toRecord w = none := by
    rw [WorkloadSelection.toRecord, hraw]
    exact hread
  rw [lowered, countToRecord, hrecord, recorded_scaled_some]
  rfl

end Workload

namespace WorkloadSelection

variable {w : Workload}

/-- A workload without replicas needs nothing to be down, whatever it records. -/
theorem need_down_of_zero (h : w.replicas = 0) : ∃ comment, need .down w = .nothing comment := by
  unfold need
  exact ⟨_, if_pos h⟩

/-- Any other one needs to be scaled down. -/
theorem need_down_of_ne_zero (h : w.replicas ≠ 0) :
    ∃ comment, need .down w = .scale 0 (some w.countToRecord) comment := by
  unfold need
  exact ⟨_, if_neg h⟩

/-- **What becomes of a workload that is to be down.** -/
theorem brought_down (failing : List String) (e : Workload × Labels) :
    brought failing .down e =
      if e.1.replicas ≠ 0 ∧ failing.contains e.1.name = false then (e.1.lowered, e.2) else e := by
  unfold brought
  by_cases hzero : e.1.replicas = 0
  · obtain ⟨comment, hneed⟩ := need_down_of_zero hzero
    rw [hneed, if_neg fun h => h.1 hzero]
  · obtain ⟨comment, hneed⟩ := need_down_of_ne_zero hzero
    rw [hneed]
    cases hfailing : failing.contains e.1.name with
    | true =>
      rw [if_neg fun h => Bool.noConfusion h.2]
      rfl
    | false =>
      rw [if_pos ⟨hzero, rfl⟩]
      rfl

/-- **It is reported as a failure** when it has replicas and fails to be scaled, whatever it
records. -/
theorem failed_reported_down (failing : List String) (kind : String) (w : Workload) :
    (reported failing kind .down w).failed ≠ [] ↔
      w.replicas ≠ 0 ∧ failing.contains w.name = true := by
  unfold reported
  by_cases hzero : w.replicas = 0
  · obtain ⟨comment, hneed⟩ := need_down_of_zero hzero
    rw [hneed]
    constructor
    · exact fun h => absurd rfl h
    · exact fun h => absurd hzero h.1
  · obtain ⟨comment, hneed⟩ := need_down_of_ne_zero hzero
    rw [hneed]
    cases hfailing : failing.contains w.name with
    | true =>
      constructor
      · exact fun _ => ⟨hzero, rfl⟩
      · exact fun _ => List.cons_ne_nil _ _
    | false =>
      constructor
      · exact fun h => absurd rfl h
      · exact fun h => Bool.noConfusion h.2

/-- A workload that was brought down is left so. -/
theorem brought_down_again (failing : List String) (e : Workload × Labels) :
    brought failing .down (brought failing .down e) = brought failing .down e := by
  by_cases hlowers : e.1.replicas ≠ 0 ∧ failing.contains e.1.name = false
  · rw [brought_down failing e, if_pos hlowers, brought_down, if_neg fun h => h.1 rfl]
  · rw [brought_down failing e, if_neg hlowers, brought_down, if_neg hlowers]

/-- And is reported as a failure if it was one before. -/
theorem failed_reported_brought_down (failing : List String) (kind : String)
    (e : Workload × Labels) :
    (reported failing kind .down (brought failing .down e).1).failed ≠ [] ↔
      (reported failing kind .down e.1).failed ≠ [] := by
  rw [failed_reported_down, failed_reported_down, brought_down]
  by_cases hlowers : e.1.replicas ≠ 0 ∧ failing.contains e.1.name = false
  · rw [if_pos hlowers]
    constructor
    · exact fun h => absurd rfl h.1
    · exact fun h => Bool.noConfusion (hlowers.2.symm.trans h.2)
  · rw [if_neg hlowers]

end WorkloadSelection

/-! ## A pass, whatever fails or is cancelled -/

namespace Mutator

/-- A pass leaves a workload as it was, or it selects the workload and scales it down. -/
def LeavesOrLowers (m : Mutator) (e₀ e : Workload × Labels) : Prop :=
  e = e₀ ∨ (m.Selects m.places e₀.1.identity e₀.2 ∧ e₀.1.replicas ≠ 0 ∧
    e = (e₀.1.lowered, e₀.2))

/-- Each workload of a table is as it was at first, or scaled down. -/
def Lowering (m : Mutator) (first : List (Workload × Labels)) (s : Nat × World) : Prop :=
  List.Forall₂ m.LeavesOrLowers first s.2.workloads.entries

variable {m : Mutator} {e₀ e : Workload × Labels} {first : List (Workload × Labels)}

theorem LeavesOrLowers.identity_eq (h : m.LeavesOrLowers e₀ e) :
    e.1.identity = e₀.1.identity := by
  rcases h with rfl | ⟨-, -, rfl⟩
  · rfl
  · rfl

/-- A workload that still has replicas is as it was. -/
theorem LeavesOrLowers.eq_of_replicas (h : m.LeavesOrLowers e₀ e) (hup : e.1.replicas ≠ 0) :
    e = e₀ := by
  rcases h with rfl | ⟨-, -, rfl⟩
  · rfl
  · exact absurd rfl hup

/-- To scale down a workload as it was at first leads to the same, whatever has become of it. -/
theorem LeavesOrLowers.scaled (h : m.LeavesOrLowers e₀ e)
    (hselects : m.Selects m.places e₀.1.identity e₀.2) (hup : e₀.1.replicas ≠ 0) :
    m.LeavesOrLowers e₀ (Memory.Workloads.scaled e.1 0 (some e₀.1.countToRecord), e.2) := by
  refine Or.inr ⟨hselects, hup, ?_⟩
  rcases h with rfl | ⟨-, -, rfl⟩
  · rfl
  · rw [e₀.1.scaled_lowered]

/-- What reads as a count still reads as that count. -/
theorem LeavesOrLowers.recordedCount (h : m.LeavesOrLowers e₀ e) {n : Int}
    (hread : e₀.1.recordedCount = some n) : e.1.recordedCount = some n := by
  rcases h with rfl | ⟨-, -, rfl⟩
  · exact hread
  · exact Workload.recordedCount_lowered hread

variable (hfirst : (first.map fun e => e.1.identity).Nodup) {i : Interference World}
  (hi : i.SparesWorkloads)

include hi

theorem Lowering.change {s : Nat × World} (hs : m.Lowering first s) :
    m.Lowering first (s.1 + 1, i.change s.1 s.2) := by
  unfold Lowering at hs ⊢
  rw [hi s.1 s.2]
  exact hs

include hfirst

/-- **A call that scales down a workload as it was at first** keeps all that was reached so far,
answered or refused. -/
theorem Lowering.scale {server : Option String} (he₀ : e₀ ∈ first)
    (hselects : m.Selects m.places e₀.1.identity e₀.2) (hup : e₀.1.replicas ≠ 0)
    {s : Nat × World} (hs : m.Lowering first s) :
    m.Lowering first (i.around World.answer (.scaleWorkload server e₀.1.kind e₀.1.namespaceName
      e₀.1.name 0 (some e₀.1.countToRecord)) s).2 := by
  have hchanged := hs.change hi
  rcases i.around_cases (h := World.answer) (.scaleWorkload server e₀.1.kind e₀.1.namespaceName
    e₀.1.name 0 (some e₀.1.countToRecord)) s.1 s.2 with ⟨e, hcall⟩ | hcall
  · rw [hcall]
    exact hchanged
  · rw [hcall]
    unfold Lowering at hchanged ⊢
    rcases Workloads.scale_cases e₀.1.kind e₀.1.namespaceName e₀.1.name 0
      (some e₀.1.countToRecord) (i.change s.1 s.2).workloads with ⟨e, -, heq⟩ | ⟨-, heq⟩
    · exact heq ▸ hchanged
    · change List.Forall₂ _ _ ((i.change s.1 s.2).workloads.scale _ _ _ _ _).2.entries
      rw [heq, scaledEntries, List.forall₂_map_right_iff]
      have hmem := (List.forall₂_and_left (p := (· ∈ first)) _ _).mpr ⟨fun _ h => h, hchanged⟩
      refine hmem.imp fun x₀ x hx => ?_
      obtain ⟨hx₀, hx⟩ := hx
      split
      · rename_i hsame
        -- identities are distinct at first, so this is the workload of the call
        obtain rfl := List.inj_on_of_nodup_map hfirst hx₀ he₀ (hx.identity_eq.symm.trans hsame)
        exact hx.scaled hselects hup
      · exact hx

/-- A workload that is converged when it is listed is left as it was at first, or scaled down. -/
theorem stays_converge_down {w : Workload} {labels : Labels} {t : Nat × World}
    (ht : m.Lowering first t) (hw : (w, labels) ∈ t.2.workloads.entries)
    (hselects : m.Selects m.places w.identity labels) :
    (WorkloadSelection.converge m.server m.kind .down w).Stays (i.around World.answer)
      (m.Lowering first) := by
  unfold WorkloadSelection.converge
  by_cases hzero : w.replicas = 0
  · obtain ⟨comment, hneed⟩ := WorkloadSelection.need_down_of_zero hzero
    rw [hneed]
    exact Program.Stays.done _
  · obtain ⟨comment, hneed⟩ := WorkloadSelection.need_down_of_ne_zero hzero
    rw [hneed]
    obtain ⟨e₀, he₀, hleft⟩ : ∃ e₀ ∈ first, m.LeavesOrLowers e₀ (w, labels) := by
      obtain ⟨⟨k, hk⟩, hget⟩ := List.get_of_mem hw
      have hk₀ : k < first.length := ht.length_eq ▸ hk
      have hleft := List.Forall₂.get ht hk₀ hk
      rw [hget] at hleft
      exact ⟨_, List.get_mem first ⟨k, hk₀⟩, hleft⟩
    obtain rfl := hleft.eq_of_replicas hzero
    refine Program.Stays.ask fun s hs => ⟨hs.scale hfirst hi he₀ hselects hzero, ?_⟩
    split
    · exact Program.Stays.done _
    · exact Program.Stays.done _

/-- **At each call of a pass**, whatever fails or is cancelled, each workload is as it was at first
or is scaled down. -/
theorem stays_setState_down :
    (m.setState .down).Stays (i.around World.answer) (m.Lowering first) := by
  refine m.stays_setState_of fun namespaceName hsearched s hs => ?_
  have hchanged := hs.change hi
  rcases i.around_cases (h := World.answer) (.listWorkloads m.server m.workloadKind namespaceName
    (Selector.ofLabels m.selection.labels)) s.1 s.2 with ⟨e, hcall⟩ | hcall
  · rw [hcall]
    exact ⟨hchanged, nofun⟩
  · rw [hcall]
    refine ⟨hchanged, fun found hfound w hw hnamed => ?_⟩
    obtain ⟨hkind, rfl, labels, hmem, haccepts⟩ := (Workloads.mem_list_iff hfound).mp hw
    exact stays_converge_down hfirst hi hchanged hmem ⟨hkind, hsearched, haccepts, hnamed⟩

end Mutator

/-! ## What a pass leaves of the records -/

namespace Mutator

variable (m : Mutator) (w : World)

/-- A pass scales down a workload: it reaches it, there are replicas, and the call succeeds. -/
def Lowers (e : Workload × Labels) : Prop :=
  m.Reaches w e ∧ e.1.replicas ≠ 0 ∧ w.workloads.failingScale.contains e.1.name = false

/-- A pass fails to scale down a workload that it reaches. -/
def FailsToLower (e : Workload × Labels) : Prop :=
  m.Reaches w e ∧ e.1.replicas ≠ 0 ∧ w.workloads.failingScale.contains e.1.name = true

/-- What a pass down with these lines leaves of a workload and of its record. -/
structure LeavesRecord (lines : List Line) (e₀ e : Workload × Labels) : Prop where
  same : e.1.identity = e₀.1.identity ∧ e.2 = e₀.2
  /-- What reads as a count still reads as that count. -/
  readable : ∀ n, e₀.1.recordedCount = some n → e.1.recordedCount = some n
  /-- What does not read as a count is left, with all of the workload, unless it is scaled down. -/
  left : e₀.1.HasUnreadableRecord → (e = e₀ ↔ ¬ m.Lowers w e₀)
  /-- And then it is lost. -/
  lost : e₀.1.HasUnreadableRecord → m.Lowers w e₀ →
    e.1.replicas = 0 ∧ e.1.recorded = some (Text.ofInt e₀.1.replicas)
  /-- The workload is reported as a failure when the call to scale it fails, and only then. -/
  failed : (∃ line ∈ Line.about (.workload e₀.1.identity) lines, line.report.failed ≠ []) ↔
    m.FailsToLower w e₀

variable {m w} {e : Workload × Labels}

/-- What becomes of a workload in the course of a pass down. -/
theorem course_down (e : Workload × Labels) [Decidable (m.Lowers w e)] :
    Leg.course (m.part w .down).legs e =
      if m.Lowers w e then (e.1.lowered, e.2) else e := by
  have hcourse : Leg.course (m.part w .down).legs e =
      if Leg.anyTouches (m.part w .down).legs e then
        WorkloadSelection.brought w.workloads.failingScale .down e else e :=
    Leg.course_eq (Sweep.areAlike _ _ _) (WorkloadSelection.brought_down_again _ e)
  rw [hcourse, WorkloadSelection.brought_down]
  by_cases hreached : Leg.anyTouches (m.part w .down).legs e = true
  · rw [if_pos hreached]
    rw [anyTouches_part] at hreached
    by_cases hup : e.1.replicas ≠ 0 ∧ w.workloads.failingScale.contains e.1.name = false
    · rw [if_pos hup, if_pos ⟨hreached, hup⟩]
    · rw [if_neg hup, if_neg fun hlowers => hup hlowers.2]
  · rw [if_neg hreached]
    rw [anyTouches_part] at hreached
    rw [if_neg fun hlowers => hreached hlowers.1]

/-- Which workloads a pass down reports as failures. -/
theorem failed_down_iff (hw : w.IsOrdered) (he : e ∈ w.workloads.entries) :
    (∃ line ∈ Line.about (.workload e.1.identity) ((m.part w .down).lines w.workloads.entries),
      line.report.failed ≠ []) ↔ m.FailsToLower w e := by
  have habout : Line.about (.workload e.1.identity)
      ((m.part w .down).lines w.workloads.entries) = Leg.linesFor (m.part w .down).legs e :=
    Part.about_lines (Sweep.isOver_part (m.asks w .down) m.places)
      (WorkloadSelection.nodup_sources hw) he rfl
  rw [habout]
  have hagain := WorkloadSelection.brought_down_again w.workloads.failingScale e
  have halike := Sweep.areAlike (m.sweep .down) (m.backing w .down) m.places
  have hreport (hfails : (WorkloadSelection.reported w.workloads.failingScale m.kind .down
      e.1).failed ≠ []) := (WorkloadSelection.failed_reported_down _ _ _).mp hfails
  constructor
  · rintro ⟨line, hline, hfailed⟩
    obtain ⟨htouched, rfl | rfl⟩ := Leg.eq_line_of_mem_linesFor halike hagain hline
    · exact ⟨(m.anyTouches_part w .down e).mp htouched, hreport hfailed⟩
    · have hfailed := (WorkloadSelection.failed_reported_brought_down _ _ e).mp hfailed
      exact ⟨(m.anyTouches_part w .down e).mp htouched, hreport hfailed⟩
  · rintro ⟨hreached, hfails⟩
    refine ⟨_, Leg.line_mem_linesFor halike ((m.anyTouches_part w .down e).mpr hreached), ?_⟩
    exact (WorkloadSelection.failed_reported_down _ _ _).mpr hfails

/-- What a pass down leaves of one workload. -/
theorem leavesRecord_course (hw : w.IsOrdered) (he : e ∈ w.workloads.entries) :
    m.LeavesRecord w ((m.part w .down).lines w.workloads.entries) e
      (Leg.course (m.part w .down).legs e) := by
  classical
  rw [course_down]
  by_cases hlowers : m.Lowers w e
  · rw [if_pos hlowers]
    have hne : (e.1.lowered, e.2) ≠ e :=
      fun heq => Workload.lowered_ne hlowers.2.1 (congrArg Prod.fst heq)
    exact
      { same := ⟨rfl, rfl⟩
        readable := fun _ hread => Workload.recordedCount_lowered hread
        left := fun _ => ⟨fun heq => absurd heq hne, fun h => absurd hlowers h⟩
        lost := fun hbad _ => ⟨rfl, Workload.recorded_lowered hbad⟩
        failed := failed_down_iff hw he }
  · rw [if_neg hlowers]
    exact
      { same := ⟨rfl, rfl⟩
        readable := fun _ hread => hread
        left := fun _ => ⟨fun _ => hlowers, fun _ => rfl⟩
        lost := fun _ h => absurd h hlowers
        failed := failed_down_iff hw he }

end Mutator

/-- **What scaling down leaves of the records.** A pass down over the workloads of a world gives a
report, whatever is selected and whatever fails. A record that reads as a count reads as that count
afterwards. One that does not is left, with all of its workload, unless the workload is reached, has
replicas, and is not to fail: then it gives way to the current count, and no failure is reported.
The workloads that are reported as failures are those that are reached, have replicas, and are to
fail.

And whatever is refused or cancelled on the way, at each call a workload is as it was or is scaled
down, and a record that read as a count reads as that count. -/
theorem records_when_scaled_down {w : World} (hw : w.IsOrdered) (m : Mutator) :
    (∃ lines w',
      ((m.sweep .down).overAll m.places).run World.answer w = (lines, w') ∧
      (m.setState .down).run World.answer w = (.ok (.ofLines lines), w') ∧
      List.Forall₂ (m.LeavesRecord w lines) w.workloads.entries w'.workloads.entries) ∧
    ∀ (i : Interference World), i.SparesWorkloads → ∀ n,
      ∀ s ∈ (m.setState .down).visits (i.around World.answer) (n, w),
        List.Forall₂ (fun e₀ e => m.LeavesOrLowers e₀ e ∧
            ∀ n, e₀.1.recordedCount = some n → e.1.recordedCount = some n)
          w.workloads.entries s.2.workloads.entries := by
  constructor
  · obtain ⟨log, hsweep, hrun⟩ := m.run_setState hw (by decide : Target.down ≠ .noAction)
    refine ⟨_, _, hsweep, hrun, ?_⟩
    refine List.forall₂_map_right_iff.mpr ?_
    exact List.forall₂_same.mpr fun e he => Mutator.leavesRecord_course hw he
  · intro i hi n s hs
    have hstart : m.Lowering w.workloads.entries (n, w) :=
      List.forall₂_same.mpr fun _ _ => Or.inl rfl
    have hlowering := Mutator.stays_setState_down hw.workloads.distinct hi (n, w) hstart s hs
    exact hlowering.imp fun e₀ e h => ⟨h, fun n hread => h.recordedCount hread⟩

/-- A workload of the default namespace with a record. -/
def recording (name : String) (replicas : Int) (record : String) : Workload × Labels :=
  (⟨.deployment, "default", name, replicas, [(Scaler.replicasAnnotation, record)]⟩, [])

/-- Three deployments with replicas and records, two of which do not read as a count; the second
one is to fail. -/
def illRecorded : World :=
  { World.empty (.leadsTo .kubernetes) with
    workloads :=
      { Workloads.empty with
        entries := [recording "api" 2 "+4", recording "jobs" 1 "few", recording "web" 3 "many"]
        failingScale := ["jobs"] } }

/-- The first record is kept, also when a call is cancelled; the second one is left with its
workload, and the third one is lost without a failure. -/
theorem illRecorded_scaled_down :
    (∃ lines w' api jobs web,
      (deployments.setState .down).run World.answer illRecorded = (.ok (.ofLines lines), w') ∧
      w'.workloads.entries = [api, jobs, web] ∧ api.1.recordedCount = some 4 ∧
      jobs = recording "jobs" 1 "few" ∧ web.1.replicas = 0 ∧ web.1.recorded = some "3" ∧
      ¬ ∃ line ∈ Line.about (.workload ⟨.deployment, "default", "web"⟩) lines,
        line.report.failed ≠ []) ∧
    ∀ s ∈ (deployments.setState .down).visits (secondCancelled.around World.answer)
        (0, illRecorded), ∃ api jobs web,
      s.2.workloads.entries = [api, jobs, web] ∧ api.1.recordedCount = some 4 := by
  obtain ⟨⟨lines, w', -, hrun, hleft⟩, hcancelled⟩ :=
    records_when_scaled_down (w := illRecorded) (by decide) deployments
  have hread : (recording "api" 2 "+4").1.recordedCount = some 4 := by decide
  constructor
  · generalize hentries : w'.workloads.entries = entries at hleft
    obtain _ | ⟨hapi, _ | ⟨hjobs, _ | ⟨hweb, _ | _⟩⟩⟩ := hleft
    have hfew : (recording "jobs" 1 "few").1.HasUnreadableRecord := ⟨"few", rfl, by decide⟩
    have hmany : (recording "web" 3 "many").1.HasUnreadableRecord := ⟨"many", rfl, by decide⟩
    have hfails : ¬ deployments.Lowers illRecorded (recording "jobs" 1 "few") := by
      rintro ⟨-, -, hspared⟩
      cases hspared
    have hlowers : deployments.Lowers illRecorded (recording "web" 3 "many") :=
      ⟨⟨⟨rfl, List.mem_cons_self, rfl, rfl⟩, rfl⟩, by decide, rfl⟩
    obtain ⟨hzero, hrecord⟩ := hweb.lost hmany hlowers
    refine ⟨lines, w', _, _, _, hrun, hentries, hapi.readable 4 hread, (hjobs.left hfew).mpr hfails,
      hzero, hrecord, fun hfailed => ?_⟩
    obtain ⟨-, -, hfailing⟩ := hweb.failed.mp hfailed
    cases hfailing
  · intro s hs
    have hleft := hcancelled secondCancelled (fun _ _ => rfl) 0 s hs
    generalize s.2.workloads.entries = entries at hleft ⊢
    obtain _ | ⟨hapi, _ | ⟨hjobs, _ | ⟨hweb, _ | _⟩⟩⟩ := hleft
    exact ⟨_, _, _, rfl, hapi.2 4 hread⟩

end PeriodScaler
