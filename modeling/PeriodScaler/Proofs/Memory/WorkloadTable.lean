import PeriodScaler.Memory.World
import PeriodScaler.Proofs.Memory.Table
import Mathlib.Data.Prod.Lex
import Mathlib.Data.String.Basic
import Mathlib.Tactic.Common

/-!
# The table of workloads

What one call does to the table: a call to scale that succeeds scales the workload of that identity
and leaves the others alone, and one that fails changes no workload. A list holds the workloads of a
kind and a namespace that a selector accepts, as they stand in the table. The entries are ordered,
so there is one of each identity.

* **`recorded_scaled_some`**, **`recorded_scaled_none`**: scaling with a count to record leaves the
  record of that count, and without one no record.
* **`scale_cases`**: a call to scale changes nothing or scales one identity.
* **`mem_list_iff`**: what a list holds.
* **`isOrdered_place`**, **`IsOrdered.distinct`**: adding a workload keeps the order.
-/

namespace PeriodScaler

/-- What makes two workloads the same object: kind, namespace and name. -/
structure Identity where
  kind : WorkloadKind
  namespaceName : String
  name : String
  deriving DecidableEq, Repr

/-- The identity of a workload. -/
def Workload.identity (w : Workload) : Identity :=
  ⟨w.kind, w.namespaceName, w.name⟩

/-- Where an identity stands in a table: by kind, then by namespace, then by name. -/
def Identity.position (id : Identity) : Nat ×ₗ String ×ₗ String :=
  toLex (id.kind.rank, toLex (id.namespaceName, id.name))

theorem WorkloadKind.rank_injective : Function.Injective WorkloadKind.rank := by
  intro a b h
  cases a <;> cases b <;> first | rfl | cases h

theorem Identity.position_injective : Function.Injective Identity.position := by
  rintro ⟨k, ns, n⟩ ⟨k', ns', n'⟩ h
  obtain ⟨hkind, hrest⟩ := Prod.mk.inj (toLex.injective h)
  obtain ⟨rfl, rfl⟩ := Prod.mk.inj (toLex.injective hrest)
  obtain rfl := WorkloadKind.rank_injective hkind
  rfl

namespace Memory.Workloads

variable {w : Workload} {replicas n : Int} {record : Option Int}

/-! ## Records -/

theorem lookup_putText (key value : String) : ∀ pairs : Labels,
    (putText key value pairs).lookup key = some value
  | [] => List.lookup_cons_self
  | (k, v) :: rest => by
    unfold putText Json.textMap?.insert
    split
    · exact List.lookup_cons_self
    · rename_i hne
      split
      · exact List.lookup_cons_self
      · rw [List.lookup_cons]
        have hkey : (key == k) = false := by
          rw [beq_eq_false_iff_ne]
          rintro rfl
          exact hne (beq_self_eq_true key)
        rw [hkey]
        exact lookup_putText key value rest

@[simp] theorem identity_scaled : (scaled w replicas record).identity = w.identity := rfl

@[simp] theorem replicas_scaled : (scaled w replicas record).replicas = replicas := rfl

@[simp] theorem recorded_scaled_some :
    (scaled w replicas (some n)).recorded = some (Text.ofInt n) :=
  lookup_putText _ _ _

@[simp] theorem recorded_scaled_none : (scaled w replicas none).recorded = none := by
  refine List.lookup_eq_none_iff.mpr fun p hp => ?_
  rw [bne_comm]
  exact (List.mem_filter.mp hp).2

/-! ## Calls -/

variable {kind : WorkloadKind} {namespaceName name : String} {t : Workloads}

/-- The entries of a table when the workload of an identity is scaled. -/
def scaledEntries (id : Identity) (replicas : Int) (record : Option Int)
    (entries : List (Workload × Labels)) : List (Workload × Labels) :=
  entries.map fun e => (if e.1.identity = id then scaled e.1 replicas record else e.1, e.2)

/-- **A call to scale changes nothing or scales one identity.** -/
theorem scale_cases (kind : WorkloadKind) (namespaceName name : String) (replicas : Int)
    (record : Option Int) (t : Workloads) :
    (∃ e, (t.scale kind namespaceName name replicas record).1 = .error e ∧
      (t.scale kind namespaceName name replicas record).2.entries = t.entries) ∨
    ((t.scale kind namespaceName name replicas record).1 = .ok () ∧
      (t.scale kind namespaceName name replicas record).2.entries =
        scaledEntries ⟨kind, namespaceName, name⟩ replicas record t.entries) := by
  unfold scale
  simp only
  split
  · exact Or.inl ⟨_, rfl, rfl⟩
  · split
    · refine Or.inr ⟨rfl, ?_⟩
      unfold scaledEntries Workload.identity
      simp only [Identity.mk.injEq, Bool.and_eq_true, beq_iff_eq, and_assoc]
    · exact Or.inl ⟨_, rfl, rfl⟩

/-- A call to scale that is to fail changes no workload. -/
theorem scale_failing (h : t.failingScale.contains name = true) (kind : WorkloadKind)
    (namespaceName : String) (replicas : Int) (record : Option Int) :
    t.scale kind namespaceName name replicas record =
      (.error (.conflict ("mock failure scaling " ++ (namespaceName ++ "/" ++ name))),
        { t with calls :=
          t.calls ++ [namespaceName ++ "/" ++ name ++ "=" ++ Text.ofInt replicas] }) := by
  unfold scale
  simp only
  rw [if_pos h]

/-- A call to scale a workload that is there scales its identity. -/
theorem scale_present {e : Workload × Labels} (h : t.failingScale.contains e.1.name = false)
    (he : e ∈ t.entries) (replicas : Int) (record : Option Int) :
    t.scale e.1.kind e.1.namespaceName e.1.name replicas record =
      (.ok (), { t with
        entries := scaledEntries e.1.identity replicas record t.entries
        calls := t.calls ++ [e.1.namespaceName ++ "/" ++ e.1.name ++ "=" ++ Text.ofInt replicas] })
    := by
  unfold scale scaledEntries Workload.identity
  simp only [h, Bool.false_eq_true, if_false]
  rw [if_pos (List.any_eq_true.mpr ⟨e, he, ?_⟩)]
  · simp only [Identity.mk.injEq, Bool.and_eq_true, beq_iff_eq, and_assoc]
  · simp only [beq_self_eq_true, Bool.and_self]

/-- **A list holds** the workloads of the kind and the namespace that the selector accepts. -/
theorem mem_list_iff {selector : Option String} {found : List Workload}
    (h : t.list kind namespaceName selector = .ok found) :
    w ∈ found ↔ w.kind = kind ∧ w.namespaceName = namespaceName ∧
      ∃ labels, (w, labels) ∈ t.entries ∧ Selector.accepts selector labels = true := by
  unfold list at h
  split at h
  · cases h
  · obtain rfl := Except.ok.inj h
    simp only [List.mem_map, List.mem_filter, Bool.and_eq_true, beq_iff_eq]
    constructor
    · rintro ⟨⟨w, labels⟩, ⟨hmem, ⟨hkind, hns⟩, hacc⟩, rfl⟩
      exact ⟨hkind, hns, labels, hmem, hacc⟩
    · rintro ⟨hkind, hns, labels, hmem, hacc⟩
      exact ⟨(w, labels), ⟨hmem, ⟨hkind, hns⟩, hacc⟩, rfl⟩

/-! ## Order -/

variable {labels : Labels} {entries : List (Workload × Labels)}

theorem same_iff {a b : Workload} : same a b = true ↔ a.identity = b.identity := by
  simp only [same, Workload.identity, Identity.mk.injEq, Bool.and_eq_true, beq_iff_eq, and_assoc]

theorem before_iff {a b : Workload} :
    before a b = true ↔ a.identity.position < b.identity.position := by
  unfold before Identity.position Workload.identity
  simp only [Prod.Lex.toLex_lt_toLex, Bool.or_eq_true, Bool.and_eq_true, decide_eq_true_eq,
    beq_iff_eq, WorkloadKind.rank_injective.eq_iff]

/-- The entries of a table rise by position. -/
def IsOrdered (entries : List (Workload × Labels)) : Prop :=
  entries.Pairwise fun a b => a.1.identity.position < b.1.identity.position

theorem isOrdered_iff :
    IsOrdered entries ↔ entries.Pairwise fun a b => before a.1 b.1 = true := by
  simp only [IsOrdered, before_iff]

instance : DecidablePred IsOrdered :=
  fun _ => decidable_of_iff _ isOrdered_iff.symm

/-- To scale workloads leaves them where they stand. -/
theorem IsOrdered.scaled (h : IsOrdered entries) (id : Identity) (replicas : Int)
    (record : Option Int) : IsOrdered (scaledEntries id replicas record entries) := by
  refine List.pairwise_map.mpr (h.imp fun {a b} hlt => ?_)
  split <;> split <;> exact hlt

theorem IsOrdered.distinct (h : IsOrdered entries) :
    (entries.map fun e => e.1.identity).Nodup := by
  refine List.pairwise_map.mpr (h.imp fun {a b} hlt heq => ?_)
  exact absurd (congrArg Identity.position heq) hlt.ne

/-- **Adding keeps the order**, and with it one entry for each identity. -/
theorem isOrdered_place (h : IsOrdered entries) : IsOrdered (place w labels entries) :=
  Table.pairwise_place
    (fun _ _ => same_iff.trans Identity.position_injective.eq_iff.symm) (fun _ _ => before_iff) h

end Memory.Workloads

end PeriodScaler
