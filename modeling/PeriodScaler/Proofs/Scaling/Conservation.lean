import PeriodScaler.Proofs.Memory.WorkloadTable
import PeriodScaler.Proofs.Run
import PeriodScaler.Proofs.Text.Decimal
import PeriodScaler.Scaling.Workloads

/-!
# Passes keep the replica counts

A workload that is left to the passes has its first replica count and no record, or it is scaled to
zero and its record is that count (`Workload.IsKept`). The only calls to scale that a pass makes for
such a workload are two: to zero with its first count as record, and to its first count without a
record. Each of them leads back to the two states whatever the workload has become in between, so
neither repeated namespaces nor calls that fail or are cancelled can lose the count.

* **`need_isKept`**: what a workload in one of the two states needs.
* **`conserving_scale`**: a call that keeps the count conserves the table, answered or refused.
* **`Mutator.stays_setState_of`**: what lists and calls to scale keep, a pass keeps.
* **`stays_passes`**: any passes conserve the workloads at each of their calls.
-/

namespace PeriodScaler

open Memory (World Workloads)
open Memory.Workloads (scaled scaledEntries)

/-! ## One workload -/

/-- A workload that started with `n` replicas has them and no record, or is scaled to zero and
records them. -/
def Workload.IsKept (n : Int) (w : Workload) : Prop :=
  (w.replicas = n ∧ w.recorded = none) ∨
    (w.replicas = 0 ∧ w.recorded = some (Text.ofInt n) ∧ 0 < n)

/-- A call to scale that a workload with `n` replicas at the start may get. -/
def IsKeeping (n replicas : Int) (record : Option Int) : Prop :=
  (replicas = n ∧ record = none) ∨ (replicas = 0 ∧ record = some n ∧ 0 < n)

/-- The call decides what becomes of a workload, not what it was before. -/
theorem IsKeeping.isKept_scaled {n replicas : Int} {record : Option Int}
    (h : IsKeeping n replicas record) (w : Workload) : (scaled w replicas record).IsKept n := by
  rcases h with ⟨rfl, rfl⟩ | ⟨rfl, rfl, hpos⟩
  · exact Or.inl ⟨rfl, Workloads.recorded_scaled_none⟩
  · exact Or.inr ⟨rfl, Workloads.recorded_scaled_some, hpos⟩

/-- The target brings workloads back: up, or restore. -/
def Target.IsUpward (t : Target) : Prop :=
  t = .up ∨ t = .restore

namespace WorkloadSelection

variable {n : Int} {w : Workload} {target : Target}

theorem toRecord_of_isKept (hlo : 0 ≤ n) (hhi : n ≤ 2147483647) (hw : w.IsKept n)
    (hne : w.replicas ≠ 0) : toRecord w = some n := by
  rcases hw with ⟨hreplicas, hrecorded⟩ | ⟨hreplicas, -⟩
  · unfold toRecord
    rw [hrecorded]
    simp only
    rw [if_pos (by omega), hreplicas]
  · exact absurd hreplicas hne

/-- Scaling down from the first count records it. -/
theorem need_down (hlo : 0 ≤ n) (hhi : n ≤ 2147483647) (hw : w.IsKept n) :
    (∃ comment, need .down w = .nothing comment) ∨
      ∃ comment, need .down w = .scale 0 (some n) comment ∧ 0 < n := by
  unfold need
  simp only
  by_cases hzero : w.replicas = 0
  · rw [if_pos hzero]
    exact Or.inl ⟨_, rfl⟩
  · rw [if_neg hzero, toRecord_of_isKept hlo hhi hw hzero]
    refine Or.inr ⟨_, rfl, ?_⟩
    rcases hw with ⟨hreplicas, -⟩ | ⟨hreplicas, -⟩
    · omega
    · exact absurd hreplicas hzero

/-- Going up, a workload without a record has its first count, and one with a record needs it. -/
theorem need_upward (hlo : 0 ≤ n) (hhi : n ≤ 2147483647) (htarget : target.IsUpward)
    (hw : w.IsKept n) :
    (w.recorded = none ∧ ∃ comment, need target w = .nothing comment) ∨
      ∃ comment, need target w = .scale n none comment := by
  rcases hw with ⟨-, hrecorded⟩ | ⟨-, hrecorded, -⟩
  · refine Or.inl ⟨hrecorded, ?_⟩
    rcases htarget with rfl | rfl <;> simp only [need, hrecorded] <;> split <;> exact ⟨_, rfl⟩
  · refine Or.inr ⟨"scaled up to " ++ Text.ofInt n ++ " replicas", ?_⟩
    have hread : Text.int32? (Text.ofInt n).toList = some n := Text.int32?_ofInt (by omega) hhi
    rcases htarget with rfl | rfl <;> simp only [need, hrecorded, hread]

/-- **What a workload in one of the two states needs**: nothing, or a call that keeps its count. -/
theorem need_isKept (hlo : 0 ≤ n) (hhi : n ≤ 2147483647) (hw : w.IsKept n) (target : Target) :
    need target w = .ignore ∨ (∃ comment, need target w = .nothing comment) ∨
      ∃ replicas record comment, need target w = .scale replicas record comment ∧
        IsKeeping n replicas record := by
  have hup : target.IsUpward → (∃ comment, need target w = .nothing comment) ∨
      ∃ replicas record comment, need target w = .scale replicas record comment ∧
        IsKeeping n replicas record := by
    intro htarget
    rcases need_upward hlo hhi htarget hw with ⟨-, h⟩ | ⟨comment, h⟩
    · exact Or.inl h
    · exact Or.inr ⟨n, none, comment, h, Or.inl ⟨rfl, rfl⟩⟩
  cases target with
  | up => exact Or.inr (hup (Or.inl rfl))
  | restore => exact Or.inr (hup (Or.inr rfl))
  | noAction => exact Or.inl rfl
  | down =>
    rcases need_down hlo hhi hw with h | ⟨comment, h, hpos⟩
    · exact Or.inr (Or.inl h)
    · exact Or.inr (Or.inr ⟨0, some n, comment, h, Or.inr ⟨rfl, rfl, hpos⟩⟩)

end WorkloadSelection

/-! ## All workloads -/

/-- The workloads of a table are those of a roster, and each is kept with its count. -/
structure IsConserved (count : Identity → Int) (roster : List (Identity × Labels))
    (t : Workloads) : Prop where
  roster_eq : t.entries.map (fun e => (e.1.identity, e.2)) = roster
  kept : ∀ e ∈ t.entries, e.1.IsKept (count e.1.identity)

/-- The outside leaves the workloads alone; failures and all else may change. -/
def Interference.SparesWorkloads (i : Interference World) : Prop :=
  ∀ n w, (i.change n w).workloads.entries = w.workloads.entries

/-- A pass over the workloads of one kind: where they live, how they are selected, and how the
report names their kind. -/
structure Mutator where
  server : Option String
  workloadKind : WorkloadKind
  kind : String
  selection : WorkloadSelection
  defaultNamespace : String

namespace Mutator

/-- Brings the workloads of a mutator toward a target. -/
def setState (m : Mutator) (target : Target) : Work (Except Cause Report) :=
  m.selection.setState m.server m.workloadKind m.kind m.defaultNamespace target

/-- One pass after the other. -/
def passes : List (Mutator × Target) → Work (List (Except Cause Report))
  | [] => .done []
  | (m, target) :: rest => do
    let report ← m.setState target
    let reports ← passes rest
    return report :: reports

end Mutator

section Passes

variable {σ : Type} {h : Handler collaborators σ} {inv : σ → Prop}

theorem stays_gather {α : Type} {f : α → Work Report} : ∀ {l : List α},
    (∀ a ∈ l, (f a).Stays h inv) → (Report.gather f l).Stays h inv
  | [], _ => Program.Stays.done _
  | a :: l, hl => by
    refine (hl a List.mem_cons_self).bind fun first => ?_
    refine (stays_gather fun b hb => hl b (List.mem_cons_of_mem a hb)).bind fun others => ?_
    exact Program.Stays.done _

/-- A call to list a namespace stays, and so do all workloads that are converged when it shows them.
-/
def Mutator.ListsAndStays (m : Mutator) (target : Target) (h : Handler collaborators σ)
    (inv : σ → Prop) (namespaceName : String) : Prop :=
  ∀ s, inv s →
    inv (h (.listWorkloads m.server m.workloadKind namespaceName
      (Selector.ofLabels m.selection.labels)) s).2 ∧
    ∀ found : List Workload, (h (.listWorkloads m.server m.workloadKind namespaceName
        (Selector.ofLabels m.selection.labels)) s).1 = .ok found →
      ∀ w ∈ found, isNamed m.selection.names w.name = true →
        (WorkloadSelection.converge m.server m.kind target w).Stays h inv

variable (m : Mutator) {target : Target}

theorem Mutator.stays_convergeNamespaces : ∀ {namespaces : List String},
    (∀ namespaceName ∈ namespaces, m.ListsAndStays target h inv namespaceName) →
      (m.selection.convergeNamespaces m.server m.workloadKind m.kind target namespaces).Stays h inv
  | [], _ => Program.Stays.done _
  | namespaceName :: rest, hlist => by
    obtain ⟨hfirst, hrest⟩ := List.forall_mem_cons.mp hlist
    have hplace : (m.selection.convergeNamespace m.server m.workloadKind m.kind target
        namespaceName).Stays h inv := by
      refine Program.Stays.ask fun s hs => ?_
      obtain ⟨hlisted, hfound⟩ := hfirst s hs
      refine ⟨hlisted, ?_⟩
      split
      · exact Program.Stays.done _
      · rename_i found heq
        refine (stays_gather fun w hw => ?_).bind fun report => Program.Stays.done _
        obtain ⟨hmem, hnamed⟩ := List.mem_filter.mp hw
        exact hfound found heq w hmem hnamed
    refine hplace.bind fun first => ?_
    exact (Mutator.stays_convergeNamespaces hrest).bind fun others => Program.Stays.done _

/-- **A pass stays** where its lists and what they show do. -/
theorem Mutator.stays_setState_of
    (hlist : ∀ namespaceName ∈ m.selection.searched m.defaultNamespace,
      m.ListsAndStays target h inv namespaceName) : (m.setState target).Stays h inv := by
  unfold Mutator.setState WorkloadSelection.setState
  split
  · exact Program.Stays.done _
  · exact (m.stays_convergeNamespaces hlist).bind fun _ => Program.Stays.done _

end Passes

section Conservation

variable {count : Identity → Int} {roster : List (Identity × Labels)}

theorem IsConserved.congr {t u : Workloads} (h : IsConserved count roster t)
    (heq : u.entries = t.entries) : IsConserved count roster u :=
  ⟨heq ▸ h.roster_eq, heq ▸ h.kept⟩

theorem IsConserved.scaled {t u : Workloads} (h : IsConserved count roster t) {id : Identity}
    {replicas : Int} {record : Option Int} (hkeep : IsKeeping (count id) replicas record)
    (heq : u.entries = scaledEntries id replicas record t.entries) :
    IsConserved count roster u := by
  constructor
  · rw [heq, ← h.roster_eq, scaledEntries, List.map_map]
    refine List.map_congr_left fun e _ => ?_
    simp only [Function.comp_apply]
    split <;> rfl
  · intro e he
    rw [heq, scaledEntries, List.mem_map] at he
    obtain ⟨e, he, rfl⟩ := he
    by_cases hid : e.1.identity = id
    · simp only [if_pos hid, Workloads.identity_scaled]
      exact hid ▸ hkeep.isKept_scaled e.1
    · simp only [if_neg hid]
      exact h.kept e he

theorem IsConserved.of_mem_list {t : Workloads} (h : IsConserved count roster t)
    {kind : WorkloadKind} {namespaceName : String} {selector : Option String}
    {found : List Workload} (hfound : t.list kind namespaceName selector = .ok found) {w : Workload}
    (hw : w ∈ found) : w.IsKept (count w.identity) := by
  obtain ⟨-, -, labels, hmem, -⟩ := (Workloads.mem_list_iff hfound).mp hw
  exact h.kept (w, labels) hmem

variable (hcount : ∀ id, 0 ≤ count id ∧ count id ≤ 2147483647) {i : Interference World}
  (hi : i.SparesWorkloads)

/-- The workloads of the world behind a count of calls are conserved. -/
def Conserving (count : Identity → Int) (roster : List (Identity × Labels)) (s : Nat × World) :
    Prop :=
  IsConserved count roster s.2.workloads

include hi

/-- **A call to scale that keeps the count** conserves the table, answered or refused. -/
theorem conserving_scale {server : Option String} {id : Identity} {replicas : Int}
    {record : Option Int} (hkeep : IsKeeping (count id) replicas record) {s : Nat × World}
    (hs : Conserving count roster s) : Conserving count roster (i.around World.answer
      (.scaleWorkload server id.kind id.namespaceName id.name replicas record) s).2 := by
  have hchanged := IsConserved.congr hs (hi s.1 s.2)
  rcases i.around_cases (h := World.answer)
    (.scaleWorkload server id.kind id.namespaceName id.name replicas record) s.1 s.2 with
    ⟨e, hcall⟩ | hcall
  · rw [hcall]
    exact hchanged
  · rw [hcall]
    rcases Workloads.scale_cases id.kind id.namespaceName id.name replicas record
      (i.change s.1 s.2).workloads with ⟨e, -, heq⟩ | ⟨-, heq⟩
    · exact hchanged.congr heq
    · exact hchanged.scaled hkeep heq

include hcount

theorem stays_converge {server : Option String} {kind : String} {w : Workload}
    (hw : w.IsKept (count w.identity)) (target : Target) :
    (WorkloadSelection.converge server kind target w).Stays (i.around World.answer)
      (Conserving count roster) := by
  obtain ⟨hlo, hhi⟩ := hcount w.identity
  unfold WorkloadSelection.converge
  rcases WorkloadSelection.need_isKept hlo hhi hw target with
    h | ⟨comment, h⟩ | ⟨replicas, record, comment, h, hkeep⟩
  · rw [h]
    exact Program.Stays.done _
  · rw [h]
    exact Program.Stays.done _
  · rw [h]
    refine Program.Stays.ask fun s hs => ⟨conserving_scale hi hkeep hs, ?_⟩
    split
    · exact Program.Stays.done _
    · exact Program.Stays.done _

/-- A pass conserves the workloads at each of its calls. -/
theorem stays_setState (m : Mutator) (target : Target) :
    (m.setState target).Stays (i.around World.answer) (Conserving count roster) := by
  refine m.stays_setState_of fun namespaceName _ s hs => ?_
  have hchanged := IsConserved.congr hs (hi s.1 s.2)
  rcases i.around_cases (h := World.answer) (.listWorkloads m.server m.workloadKind namespaceName
    (Selector.ofLabels m.selection.labels)) s.1 s.2 with ⟨e, hcall⟩ | hcall
  · rw [hcall]
    exact ⟨hchanged, nofun⟩
  · rw [hcall]
    refine ⟨hchanged, fun found hfound w hw _ => ?_⟩
    exact stays_converge hcount hi (hchanged.of_mem_list hfound hw) target

/-- **Any passes conserve the workloads** at each of their calls. -/
theorem stays_passes : ∀ passes : List (Mutator × Target),
    (Mutator.passes passes).Stays (i.around World.answer) (Conserving count roster)
  | [] => Program.Stays.done _
  | (m, target) :: rest => by
    refine (stays_setState hcount hi m target).bind fun report => ?_
    exact (stays_passes rest).bind fun reports => Program.Stays.done _

end Conservation

end PeriodScaler
