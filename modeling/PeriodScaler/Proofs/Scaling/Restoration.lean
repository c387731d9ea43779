import PeriodScaler.Proofs.Scaling.Conservation
import Mathlib.Data.List.Nodup

/-!
# Scaling down is undone exactly

A pass upward restores what it selects: each workload that it brings up gets its first replica count
and loses its record, unless the report names a failure for the workload or for its namespace. What
is restored once stays so to the end of the pass, since the pass scales to first counts only.

* **`ensures_converge`**, **`ensures_gather`**: one workload, and the workloads of a list.
* **`ensures_setState`**: what a whole pass restores.
* **`isFresh_setUp`**: which tables are fresh.
* **`scaling_down_undone`**: from a fresh table on, whatever passes run and whichever of their calls
  fail, no count is lost, and a pass upward gives it back.
-/

namespace PeriodScaler

open Memory (World Workloads)
open Memory.Workloads (IsOrdered isOrdered_place scaledEntries)

/-! ## Passes upward -/

/-- No failure of the report is of this name. -/
def Report.Spares (r : Report) (name : String) : Prop :=
  ∀ f ∈ r.failed, f.name ≠ name

theorem Report.spares_append {a b : Report} {name : String} :
    (a ++ b).Spares name ↔ a.Spares name ∧ b.Spares name := by
  unfold Spares
  rw [failed_append]
  exact List.forall_mem_append

/-- The name of a workload in a report. -/
def Identity.item (id : Identity) : String :=
  id.namespaceName ++ "/" ++ id.name

/-- A mutator selects a workload with labels, in one of some namespaces. -/
def Mutator.Selects (m : Mutator) (namespaces : List String) (id : Identity) (labels : Labels) :
    Prop :=
  id.kind = m.workloadKind ∧ id.namespaceName ∈ namespaces ∧
    Selector.accepts (Selector.ofLabels m.selection.labels) labels = true ∧
    isNamed m.selection.names id.name = true

/-- The workload of an identity has its first count and no record. -/
def IsRestored (count : Identity → Int) (id : Identity) (t : Workloads) : Prop :=
  ∀ e ∈ t.entries, e.1.identity = id → e.1.replicas = count id ∧ e.1.recorded = none

section Restoration

variable {count : Identity → Int} {roster : List (Identity × Labels)}

theorem IsRestored.congr {t u : Workloads} {id : Identity} (h : IsRestored count id t)
    (heq : u.entries = t.entries) : IsRestored count id u :=
  fun e he => h e (heq ▸ he)

/-- To its first count without a record: the call restores its identity and no other is lost. -/
theorem isRestored_scaled {t u : Workloads} {id : Identity}
    (heq : u.entries = scaledEntries id (count id) none t.entries) :
    IsRestored count id u ∧ ∀ other, IsRestored count other t → IsRestored count other u := by
  have hmem : ∀ e ∈ u.entries, ∃ e₀ ∈ t.entries, e.1.identity = e₀.1.identity ∧
      (e₀.1.identity = id → e.1.replicas = count id ∧ e.1.recorded = none) ∧
      (e₀.1.identity ≠ id → e.1 = e₀.1) := by
    intro e he
    rw [heq, scaledEntries, List.mem_map] at he
    obtain ⟨e₀, he₀, rfl⟩ := he
    refine ⟨e₀, he₀, ?_⟩
    by_cases hid : e₀.1.identity = id
    · simp [hid]
    · simp [hid]
  constructor
  · intro e he hid
    obtain ⟨e₀, -, hsame, hthis, -⟩ := hmem e he
    exact hthis (hsame ▸ hid)
  · intro other hother e he hid
    obtain ⟨e₀, he₀, hsame, hthis, hrest⟩ := hmem e he
    by_cases h : e₀.1.identity = id
    · have hsame' : other = id := hid.symm.trans (hsame.trans h)
      exact hsame' ▸ hthis h
    · rw [hrest h]
      exact hother e₀ he₀ (hsame ▸ hid)

/-- The table is conserved, and the workloads of `P` are restored. -/
def Restoring (count : Identity → Int) (roster : List (Identity × Labels)) (P : Identity → Prop)
    (s : Nat × World) : Prop :=
  Conserving count roster s ∧ ∀ id, P id → IsRestored count id s.2.workloads

theorem Restoring.mono {P Q : Identity → Prop} {s : Nat × World}
    (h : Restoring count roster P s) (hPQ : ∀ id, Q id → P id) : Restoring count roster Q s :=
  ⟨h.1, fun id hid => h.2 id (hPQ id hid)⟩

/-- After a call to scale: nothing restored is lost, and a success restores the identity. -/
def Scaled (count : Identity → Int) (roster : List (Identity × Labels)) (P : Identity → Prop)
    (id : Identity) (answer : Except Cause Unit) (s : Nat × World) : Prop :=
  Restoring count roster P s ∧ ((∃ e, answer = .error e) ∨ IsRestored count id s.2.workloads)

/-- After a call to list: a success shows a conserved table, whose restored workloads stay so. -/
def Listed (count : Identity → Int) (roster : List (Identity × Labels)) (P : Identity → Prop)
    (kind : WorkloadKind) (namespaceName : String) (selector : Option String)
    (answer : Except Cause (List Workload)) (s : Nat × World) : Prop :=
  (∃ e, answer = .error e ∧ Restoring count roster P s) ∨
    ∃ t found, answer = .ok found ∧ Workloads.list kind namespaceName selector t = .ok found ∧
      IsConserved count roster t ∧
      Restoring count roster (fun id => P id ∨ IsRestored count id t) s

variable (hcount : ∀ id, 0 ≤ count id ∧ count id ≤ 2147483647) {i : Interference World}
  (hi : i.SparesWorkloads) {target : Target} (htarget : target.IsUpward)

include hi

theorem restoring_change {P : Identity → Prop} {s : Nat × World}
    (h : Restoring count roster P s) : Restoring count roster P (s.1 + 1, i.change s.1 s.2) :=
  ⟨h.1.congr (hi s.1 s.2), fun id hid => (h.2 id hid).congr (hi s.1 s.2)⟩

/-- A call to the first count restores the workload when it succeeds, and never undoes what is
restored. -/
theorem restoring_scale {server : Option String} {P : Identity → Prop} {id : Identity}
    {s : Nat × World} (hs : Restoring count roster P s) :
    Scaled count roster P id
      (i.around World.answer
        (.scaleWorkload server id.kind id.namespaceName id.name (count id) none) s).1
      (i.around World.answer
        (.scaleWorkload server id.kind id.namespaceName id.name (count id) none) s).2 := by
  have hchanged := restoring_change hi hs
  rcases i.around_cases (h := World.answer)
    (.scaleWorkload server id.kind id.namespaceName id.name (count id) none) s.1 s.2 with
    ⟨e, hcall⟩ | hcall
  · rw [hcall]
    exact ⟨hchanged, Or.inl ⟨e, rfl⟩⟩
  · rw [hcall]
    rcases Workloads.scale_cases id.kind id.namespaceName id.name (count id) none
      (i.change s.1 s.2).workloads with ⟨e, herror, heq⟩ | ⟨-, heq⟩
    · exact ⟨⟨hchanged.1.congr heq, fun other hother => (hchanged.2 other hother).congr heq⟩,
        Or.inl ⟨e, herror⟩⟩
    · obtain ⟨hthis, hrest⟩ := isRestored_scaled heq
      exact ⟨⟨hchanged.1.scaled (Or.inl ⟨rfl, rfl⟩) heq,
        fun other hother => hrest other (hchanged.2 other hother)⟩, Or.inr hthis⟩

theorem restoring_list {server : Option String} {P : Identity → Prop} {kind : WorkloadKind}
    {namespaceName : String} {selector : Option String} {s : Nat × World}
    (hs : Restoring count roster P s) :
    Listed count roster P kind namespaceName selector
      (i.around World.answer (.listWorkloads server kind namespaceName selector) s).1
      (i.around World.answer (.listWorkloads server kind namespaceName selector) s).2 := by
  have hchanged := restoring_change hi hs
  rcases i.around_cases (h := World.answer)
    (.listWorkloads server kind namespaceName selector) s.1 s.2 with ⟨e, hcall⟩ | hcall
  · rw [hcall]
    exact Or.inl ⟨e, rfl, hchanged⟩
  · rw [hcall]
    cases hlist : (i.change s.1 s.2).workloads.list kind namespaceName selector with
    | error e => exact Or.inl ⟨e, hlist, hchanged⟩
    | ok found =>
      refine Or.inr ⟨_, found, hlist, hlist, hchanged.1, hchanged.1, ?_⟩
      rintro id (hid | hid)
      · exact hchanged.2 id hid
      · exact hid

omit hi in
/-- The listed workloads without a record are restored. -/
theorem IsConserved.isRestored_of_mem_list {t : Workloads} (h : IsConserved count roster t)
    (hroster : (roster.map Prod.fst).Nodup) {kind : WorkloadKind} {namespaceName : String}
    {selector : Option String} {found : List Workload}
    (hfound : t.list kind namespaceName selector = .ok found) {w : Workload} (hw : w ∈ found)
    (hrecorded : w.recorded = none) : IsRestored count w.identity t := by
  obtain ⟨-, -, labels, hmem, -⟩ := (Workloads.mem_list_iff hfound).mp hw
  rw [← h.roster_eq, List.map_map] at hroster
  intro e he hid
  obtain rfl := List.inj_on_of_nodup_map hroster he hmem hid
  rcases h.kept _ he with hfirst | ⟨-, hsome, -⟩
  · exact hfirst
  · rw [hrecorded] at hsome
    cases hsome

include hcount htarget

/-- One workload on the way up is restored, unless its failure is reported. -/
theorem ensures_converge {server : Option String} {kind : String} {w : Workload}
    (hw : w.IsKept (count w.identity)) {P : Identity → Prop}
    (hP : w.recorded = none → P w.identity) :
    (WorkloadSelection.converge server kind target w).Ensures (i.around World.answer)
      (Restoring count roster P) fun report =>
        Restoring count roster fun id => P id ∨ (w.identity = id ∧ report.Spares w.item) := by
  obtain ⟨hlo, hhi⟩ := hcount w.identity
  unfold WorkloadSelection.converge
  rcases WorkloadSelection.need_upward hlo hhi htarget hw with
    ⟨hrecorded, comment, h⟩ | ⟨comment, h⟩
  · rw [h]
    refine Program.Ensures.done fun s hs => hs.mono ?_
    rintro id (hid | ⟨rfl, -⟩)
    · exact hid
    · exact hP hrecorded
  · rw [h]
    refine Program.Ensures.ask (Scaled count roster P w.identity)
      (fun s hs => restoring_scale hi hs) fun a => ?_
    split
    · refine Program.Ensures.done ?_
      rintro s ⟨hs, ⟨e, he⟩ | hrestored⟩
      · cases he
      · refine ⟨hs.1, ?_⟩
        rintro id (hid | ⟨rfl, -⟩)
        · exact hs.2 id hid
        · exact hrestored
    · refine Program.Ensures.done fun s hs => hs.1.mono ?_
      rintro id (hid | ⟨-, hspared⟩)
      · exact hid
      · exact absurd rfl (hspared _ List.mem_cons_self)

/-- The workloads of a list are restored on the way up, those with a reported failure excepted. -/
theorem ensures_gather {server : Option String} {kind : String} :
    ∀ {l : List Workload} {P : Identity → Prop}, (∀ w ∈ l, w.IsKept (count w.identity)) →
      (∀ w ∈ l, w.recorded = none → P w.identity) →
      (Report.gather (WorkloadSelection.converge server kind target) l).Ensures
        (i.around World.answer) (Restoring count roster P) fun report =>
          Restoring count roster fun id =>
            P id ∨ ∃ w ∈ l, w.identity = id ∧ report.Spares w.item
  | [], P, _, _ => by
    refine Program.Ensures.done fun s hs => hs.mono ?_
    rintro id (hid | ⟨w, hw, -⟩)
    · exact hid
    · exact absurd hw List.not_mem_nil
  | w :: l, P, hkept, hP => by
    refine (ensures_converge hcount hi htarget (hkept w List.mem_cons_self)
      (hP w List.mem_cons_self)).bind fun first => ?_
    refine (ensures_gather (fun v hv => hkept v (List.mem_cons_of_mem w hv))
      fun v hv hrecorded => Or.inl (hP v (List.mem_cons_of_mem w hv) hrecorded)).bind
        fun others => ?_
    refine Program.Ensures.done fun s hs => hs.mono ?_
    rintro id (hid | ⟨v, hv, rfl, hspared⟩)
    · exact Or.inl (Or.inl hid)
    · obtain ⟨hfirst, hothers⟩ := Report.spares_append.mp hspared
      rcases List.mem_cons.mp hv with rfl | hv
      · exact Or.inl (Or.inr ⟨rfl, hfirst⟩)
      · exact Or.inr ⟨v, hv, rfl, hothers⟩

/-- What a mutator selects in one namespace is restored on the way up, unless a failure is reported
for it or for the namespace. -/
theorem ensures_convergeNamespace (hroster : (roster.map Prod.fst).Nodup) (m : Mutator)
    (namespaceName : String) {P : Identity → Prop} :
    (m.selection.convergeNamespace m.server m.workloadKind m.kind target namespaceName).Ensures
      (i.around World.answer) (Restoring count roster P) fun found =>
        Restoring count roster fun id => P id ∨ ∃ labels, (id, labels) ∈ roster ∧
          m.Selects [namespaceName] id labels ∧ found.1.Spares id.item ∧
          found.1.Spares (namespaceName ++ "/*") := by
  unfold WorkloadSelection.convergeNamespace
  refine Program.Ensures.ask (Listed count roster P m.workloadKind namespaceName
    (Selector.ofLabels m.selection.labels)) (fun s hs => restoring_list hi hs) fun a => ?_
  split
  · refine Program.Ensures.done ?_
    rintro s (⟨e, -, hs⟩ | ⟨t, found, he, -⟩)
    · refine hs.mono ?_
      rintro id (hid | ⟨labels, -, -, -, hspared⟩)
      · exact hid
      · exact absurd rfl (hspared _ List.mem_cons_self)
    · cases he
  · rename_i found
    refine Program.Ensures.start ?_
    rintro s (⟨e, he, -⟩ | ⟨t, _, ⟨⟩, hlist, hconserved, hs⟩)
    · cases he
    · refine ⟨_, hs, ?_⟩
      refine (ensures_gather hcount hi htarget ?_ ?_).bind fun report =>
        Program.Ensures.done fun s hs => hs.mono ?_
      · exact fun w hw => hconserved.of_mem_list hlist (List.mem_filter.mp hw).1
      · exact fun w hw hrecorded => Or.inr
          (hconserved.isRestored_of_mem_list hroster hlist (List.mem_filter.mp hw).1 hrecorded)
      · rintro id (hid | ⟨labels, hmem, ⟨hkind, hns, haccepts, hnamed⟩, hspared, -⟩)
        · exact Or.inl (Or.inl hid)
        · rw [← hconserved.roster_eq, List.mem_map] at hmem
          obtain ⟨e, he, heq⟩ := hmem
          obtain ⟨rfl, rfl⟩ := Prod.mk.inj heq
          refine Or.inr ⟨e.1, List.mem_filter.mpr ⟨?_, hnamed⟩, rfl, hspared⟩
          exact (Workloads.mem_list_iff hlist).mpr
            ⟨hkind, List.mem_singleton.mp hns, e.2, he, haccepts⟩

theorem ensures_convergeNamespaces (hroster : (roster.map Prod.fst).Nodup) (m : Mutator) :
    ∀ {namespaces : List String} {P : Identity → Prop},
      (m.selection.convergeNamespaces m.server m.workloadKind m.kind target namespaces).Ensures
        (i.around World.answer) (Restoring count roster P) fun found =>
          Restoring count roster fun id => P id ∨ ∃ labels, (id, labels) ∈ roster ∧
            m.Selects namespaces id labels ∧ found.1.Spares id.item ∧
            found.1.Spares (id.namespaceName ++ "/*")
  | [], P => by
    refine Program.Ensures.done fun s hs => hs.mono ?_
    rintro id (hid | ⟨labels, -, ⟨-, hns, -⟩, -⟩)
    · exact hid
    · exact absurd hns List.not_mem_nil
  | namespaceName :: rest, P => by
    refine (ensures_convergeNamespace hcount hi htarget hroster m namespaceName).bind
      fun first => ?_
    refine (ensures_convergeNamespaces hroster m).bind fun others => ?_
    refine Program.Ensures.done fun s hs => hs.mono ?_
    rintro id (hid | ⟨labels, hmem, ⟨hkind, hns, haccepts, hnamed⟩, hitem, hlist⟩)
    · exact Or.inl (Or.inl hid)
    · obtain ⟨hitem, hitem'⟩ := Report.spares_append.mp hitem
      obtain ⟨hlist, hlist'⟩ := Report.spares_append.mp hlist
      rcases List.mem_cons.mp hns with hhere | hns
      · exact Or.inl (Or.inr ⟨labels, hmem,
          ⟨hkind, List.mem_singleton.mpr hhere, haccepts, hnamed⟩, hitem, hhere ▸ hlist⟩)
      · exact Or.inr ⟨labels, hmem, ⟨hkind, hns, haccepts, hnamed⟩, hitem', hlist'⟩

/-- **A pass upward restores** every workload that it selects and reports no failure for. -/
theorem ensures_setState (hroster : (roster.map Prod.fst).Nodup) (m : Mutator) :
    (m.setState target).Ensures (i.around World.answer) (Conserving count roster) fun answer s =>
      ∃ report, answer = .ok report ∧ Restoring count roster (fun id => ∃ labels,
        (id, labels) ∈ roster ∧ m.Selects (m.selection.searched m.defaultNamespace) id labels ∧
        report.Spares id.item ∧ report.Spares (id.namespaceName ++ "/*")) s := by
  unfold Mutator.setState WorkloadSelection.setState
  rw [if_neg (by rcases htarget with rfl | rfl <;> decide)]
  refine Program.Ensures.start fun s hs =>
    ⟨Restoring count roster fun _ => False, ⟨hs, fun _ h => h.elim⟩, ?_⟩
  refine (ensures_convergeNamespaces hcount hi htarget hroster m).bind fun found => ?_
  refine Program.Ensures.done fun s hs => ⟨_, rfl, hs.mono ?_⟩
  rintro id ⟨labels, hmem, hselects, hitem, hlist⟩
  exact Or.inr ⟨labels, hmem, hselects, (Report.spares_append.mp hitem).1,
    (Report.spares_append.mp hlist).1⟩

end Restoration

/-! ## From the start on -/

/-- The replica count that an identity has in a table, zero when it is not there. -/
def firstCount (t : Workloads) (id : Identity) : Int :=
  ((t.entries.find? fun e => e.1.identity = id).map fun e => e.1.replicas).getD 0

theorem firstCount_of_mem {t : Workloads}
    (hdistinct : (t.entries.map fun e => e.1.identity).Nodup) {e : Workload × Labels}
    (he : e ∈ t.entries) : firstCount t e.1.identity = e.1.replicas := by
  unfold firstCount
  cases hfind : t.entries.find? fun x => x.1.identity = e.1.identity with
  | none =>
    rw [List.find?_eq_none] at hfind
    exact absurd (decide_eq_true rfl) (hfind e he)
  | some x =>
    have hid := List.find?_some hfind
    rw [decide_eq_true_eq] at hid
    obtain rfl := List.inj_on_of_nodup_map hdistinct (List.mem_of_find?_eq_some hfind) he hid
    rfl

theorem forall₂_of_map_eq {α β γ : Type} {f : α → γ} {g : β → γ} {R : α → β → Prop} :
    ∀ {l : List α} {m : List β}, m.map g = l.map f →
      (∀ a ∈ l, ∀ b ∈ m, g b = f a → R a b) → List.Forall₂ R l m
  | [], [], _, _ => .nil
  | a :: l, b :: m, h, hR => by
    obtain ⟨hhead, htail⟩ := List.cons.inj h
    refine .cons (hR a List.mem_cons_self b List.mem_cons_self hhead) ?_
    exact forall₂_of_map_eq htail fun x hx y hy =>
      hR x (List.mem_cons_of_mem a hx) y (List.mem_cons_of_mem b hy)
  | [], _ :: _, h, _ => by cases h
  | _ :: _, [], h, _ => by cases h

/-- The table at the start: one workload of each identity, with a replica count of 32 bits that is
not negative and no record. -/
structure IsFresh (t : Workloads) : Prop where
  distinct : (t.entries.map fun e => e.1.identity).Nodup
  count_nonneg : ∀ e ∈ t.entries, 0 ≤ e.1.replicas
  count_le : ∀ e ∈ t.entries, e.1.replicas ≤ 2147483647
  unrecorded : ∀ e ∈ t.entries, e.1.recorded = none

/-- A workload as it is added: the only annotation is the record that a label holds. -/
def added (w : Workload) (labels : Labels) : Workload :=
  { w with annotations := labels.filter fun label => label.1 == Scaler.replicasAnnotation }

/-- A table set up with some workloads and their labels, one after the other. -/
def setUp : List (Workload × Labels) → Workloads
  | [] => .empty
  | (w, labels) :: rest => (setUp rest).add w.kind w.namespaceName w.name w.replicas labels

theorem isOrdered_setUp : ∀ workloads : List (Workload × Labels),
    IsOrdered (setUp workloads).entries
  | [] => .nil
  | _ :: rest => isOrdered_place (isOrdered_setUp rest)

theorem forall_entries_setUp {P : Workload → Prop} : ∀ {workloads : List (Workload × Labels)},
    (∀ e ∈ workloads, P (added e.1 e.2)) → ∀ e ∈ (setUp workloads).entries, P e.1
  | [], _, _, he => absurd he List.not_mem_nil
  | _ :: _, h, e, he => by
    rcases Memory.Table.mem_place he with rfl | he
    · exact h _ List.mem_cons_self
    · exact forall_entries_setUp (fun x hx => h x (List.mem_cons_of_mem _ hx)) e he

/-- **A table is fresh once it is set up** with counts of 32 bits that are not negative and with
labels that name no recorded count. -/
theorem isFresh_setUp {workloads : List (Workload × Labels)}
    (hcount : ∀ e ∈ workloads, 0 ≤ e.1.replicas ∧ e.1.replicas ≤ 2147483647)
    (hlabels : ∀ e ∈ workloads, ∀ label ∈ e.2, label.1 ≠ Scaler.replicasAnnotation) :
    IsFresh (setUp workloads) where
  distinct := (isOrdered_setUp workloads).distinct
  count_nonneg := forall_entries_setUp (P := fun w => 0 ≤ w.replicas) fun e he => (hcount e he).1
  count_le :=
    forall_entries_setUp (P := fun w => w.replicas ≤ 2147483647) fun e he => (hcount e he).2
  unrecorded := by
    refine forall_entries_setUp (P := fun w => w.recorded = none) fun e he => ?_
    refine List.lookup_eq_none_iff.mpr fun label hlabel => ?_
    obtain ⟨hmem, hrecord⟩ := List.mem_filter.mp hlabel
    exact absurd (beq_iff_eq.mp hrecord) (hlabels e he label hmem)

theorem IsFresh.firstCount_bounds {t : Workloads} (h : IsFresh t) (id : Identity) :
    0 ≤ firstCount t id ∧ firstCount t id ≤ 2147483647 := by
  unfold firstCount
  cases hfind : t.entries.find? fun e => e.1.identity = id with
  | none => exact ⟨Int.le_refl 0, by decide⟩
  | some e =>
    have he := List.mem_of_find?_eq_some hfind
    exact ⟨h.count_nonneg e he, h.count_le e he⟩

theorem IsFresh.isConserved {t : Workloads} (h : IsFresh t) :
    IsConserved (firstCount t) (t.entries.map fun e => (e.1.identity, e.2)) t :=
  ⟨rfl, fun e he => Or.inl ⟨(firstCount_of_mem h.distinct he).symm, h.unrecorded e he⟩⟩

/-- **Scaling down is undone exactly.** Whatever passes run over a fresh table, and whichever of
their calls fail or are cancelled, at every call each workload has its first count and no record, or
is at zero with its positive first count as record. And from any of these states a pass up or back
ends with the first count and no record for each workload that it selects, unless it reports a
failure for the workload or for its namespace. -/
theorem scaling_down_undone {w : World} (hfresh : IsFresh w.workloads) {i : Interference World}
    (hi : i.SparesWorkloads) (n : Nat) (history : List (Mutator × Target)) :
    ∀ s ∈ (Mutator.passes history).visits (i.around World.answer) (n, w),
      List.Forall₂ (fun e₀ e => e.1.identity = e₀.1.identity ∧ e.2 = e₀.2 ∧
          ((e.1.replicas = e₀.1.replicas ∧ e.1.recorded = none) ∨
            (e.1.replicas = 0 ∧ e.1.recorded = some (Text.ofInt e₀.1.replicas) ∧
              0 < e₀.1.replicas)))
        w.workloads.entries s.2.workloads.entries ∧
      ∀ (m : Mutator) (target : Target), target.IsUpward →
        ∃ report s', (m.setState target).run (i.around World.answer) s = (.ok report, s') ∧
          List.Forall₂ (fun e₀ e => e.1.identity = e₀.1.identity ∧
              (m.Selects (m.selection.searched m.defaultNamespace) e₀.1.identity e₀.2 →
                report.Spares e₀.1.identity.item →
                report.Spares (e₀.1.identity.namespaceName ++ "/*") →
                e.1.replicas = e₀.1.replicas ∧ e.1.recorded = none))
            w.workloads.entries s'.2.workloads.entries := by
  intro s hs
  have hcount := hfresh.firstCount_bounds
  have hconserved := stays_passes hcount hi history (n, w) hfresh.isConserved s hs
  refine ⟨?_, fun m target htarget => ?_⟩
  · refine forall₂_of_map_eq hconserved.roster_eq fun e₀ he₀ e he heq => ?_
    obtain ⟨hid, hlabels⟩ := Prod.mk.inj heq
    have hkept := hconserved.kept e he
    rw [hid, firstCount_of_mem hfresh.distinct he₀] at hkept
    exact ⟨hid, hlabels, hkept⟩
  · have hroster : ((w.workloads.entries.map fun e => (e.1.identity, e.2)).map Prod.fst).Nodup := by
      rw [List.map_map]
      exact hfresh.distinct
    obtain ⟨report, hreport, hrestoring⟩ :=
      ensures_setState hcount hi htarget hroster m s hconserved
    refine ⟨report, _, Prod.ext hreport rfl, ?_⟩
    refine forall₂_of_map_eq hrestoring.1.roster_eq fun e₀ he₀ e he heq => ?_
    obtain ⟨hid, hlabels⟩ := Prod.mk.inj heq
    refine ⟨hid, fun hselects hitem hlist => ?_⟩
    have hmem := List.mem_map_of_mem (f := fun e : Workload × Labels => (e.1.identity, e.2)) he₀
    have hrestored := hrestoring.2 e₀.1.identity ⟨e₀.2, hmem, hselects, hitem, hlist⟩ e he hid
    rw [firstCount_of_mem hfresh.distinct he₀] at hrestored
    exact hrestored

/-- A world with one deployment of three replicas. -/
def oneDeployment : World :=
  { World.empty (.leadsTo .kubernetes) with
    workloads :=
      { Workloads.empty with entries := [(⟨.deployment, "default", "web", 3, []⟩, [])] } }

/-- The deployments of the default namespace. -/
def deployments : Mutator :=
  ⟨none, .deployment, "deployments", ⟨[], ["deployments"], [], []⟩, "default"⟩

/-- The second call is cancelled. -/
def secondCancelled : Interference World :=
  ⟨fun _ w => w, fun n => if n = 1 then some .cancelled else none⟩

/-- Two passes down, of which the first is cut short, and one pass up. -/
theorem oneDeployment_undone :
    let s := ((Mutator.passes [(deployments, .down), (deployments, .down)]).run
      (secondCancelled.around World.answer) (0, oneDeployment)).2
    s.2.workloads.entries.map (fun e => (e.1.replicas, e.1.recorded)) = [(0, some "3")] ∧
      ∃ report s', (deployments.setState .up).run (secondCancelled.around World.answer) s =
          (.ok report, s') ∧
        s'.2.workloads.entries.map (fun e => (e.1.replicas, e.1.recorded)) = [(3, none)] := by
  have hfresh : IsFresh oneDeployment.workloads := by
    constructor <;> decide
  obtain ⟨-, hup⟩ := scaling_down_undone hfresh (i := secondCancelled) (fun _ _ => rfl) 0
    [(deployments, .down), (deployments, .down)] _ (Program.run_mem_visits _ _)
  obtain ⟨report, s', hrun, hentries⟩ := hup deployments .up (Or.inl rfl)
  refine ⟨by decide, report, s', hrun, ?_⟩
  have hreport : ((deployments.setState .up).run (secondCancelled.around World.answer)
      ((Mutator.passes [(deployments, .down), (deployments, .down)]).run
        (secondCancelled.around World.answer) (0, oneDeployment)).2).1 =
      .ok (.success "deployments" "default/web" "scaled up to 3 replicas") := by decide
  rw [hrun] at hreport
  obtain rfl := Except.ok.inj hreport
  generalize s'.2.workloads.entries = entries at hentries ⊢
  obtain _ | ⟨⟨-, hrestored⟩, _ | _⟩ := hentries
  obtain ⟨hreplicas, hrecorded⟩ := hrestored ⟨rfl, List.mem_cons_self, rfl, rfl⟩
    (fun _ h => absurd h List.not_mem_nil) (fun _ h => absurd h List.not_mem_nil)
  rw [List.map_singleton, hreplicas, hrecorded]

end PeriodScaler
