import PeriodScaler.Memory.World
import PeriodScaler.Proofs.Memory.Table
import Mathlib.Data.Prod.Lex
import Mathlib.Data.String.Basic
import Mathlib.Tactic.Common

/-!
# The table of instances

What one call does to the table: an action on an instance that fails changes no instance, and one
that succeeds brings the instances of that zone and that name into the state. The entries are
ordered by zone and name, so there is one of each.

* **`transition_cases`**, **`transition_failing`**, **`transition_present`**: what an action does.
* **`isOrdered_place`**, **`IsOrdered.moved`**: adding an instance and an action keep the order.
-/

namespace PeriodScaler.Memory.Instances

variable {zone name action : String} {status : InstanceStatus} {t : Instances}
  {entries : List (String × Instance)}

/-! ## Actions -/

/-- The entries of a table when the instances of a zone and a name are in a state. -/
def movedEntries (zone name : String) (status : InstanceStatus)
    (entries : List (String × Instance)) : List (String × Instance) :=
  entries.map fun e =>
    (e.1, if e.1 = zone ∧ e.2.name = name then { e.2 with status := status } else e.2)

/-- **An action that is to fail** changes no instance. -/
theorem transition_failing (h : t.failingInstances.contains name = true) (zone action : String)
    (status : InstanceStatus) :
    t.transition zone name action status =
      (.error (.api ("mock failure for " ++ name)),
        { t with calls := t.calls ++ [action ++ ":" ++ (zone ++ "/" ++ name)] }) := by
  unfold transition
  simp only
  rw [if_pos h]

/-- **An action on an instance that is there** brings it into the state. -/
theorem transition_present (h : t.failingInstances.contains name = false) {e : String × Instance}
    (he : e ∈ t.entries) (hzone : e.1 = zone) (hname : e.2.name = name) (action : String)
    (status : InstanceStatus) :
    ∃ o, t.transition zone name action status =
      (.ok o, { t with
        entries := movedEntries zone name status t.entries
        calls := t.calls ++ [action ++ ":" ++ (zone ++ "/" ++ name)] }) := by
  refine ⟨⟨"operation-" ++ action ++ "-" ++ name, "DONE", none, none⟩, ?_⟩
  unfold transition movedEntries
  simp only [h, Bool.false_eq_true, if_false]
  rw [if_pos (List.any_eq_true.mpr ⟨e, he, ?_⟩)]
  · simp only [Bool.and_eq_true, beq_iff_eq]
  · simp only [hzone, hname, beq_self_eq_true, Bool.and_self]

/-- **An action changes nothing**, or brings the instances of one zone and one name into the state.
-/
theorem transition_cases (zone name action : String) (status : InstanceStatus) (t : Instances) :
    (t.transition zone name action status).2.entries = t.entries ∨
      (t.transition zone name action status).2.entries =
        movedEntries zone name status t.entries := by
  unfold transition movedEntries
  simp only
  split
  · exact Or.inl rfl
  · split
    · refine Or.inr ?_
      simp only [Bool.and_eq_true, beq_iff_eq]
    · exact Or.inl rfl

/-! ## Order -/

/-- Where an entry stands in a table: by zone, and then by name. -/
def position (e : String × Instance) : String ×ₗ String :=
  toLex (e.1, e.2.name)

/-- The entries of a table rise by position. -/
def IsOrdered (entries : List (String × Instance)) : Prop :=
  entries.Pairwise fun a b => position a < position b

theorem same_iff {a b : String × Instance} : same a b = true ↔ position a = position b := by
  simp only [same, position, toLex_inj, Prod.mk.injEq, Bool.and_eq_true, beq_iff_eq]

theorem before_iff {a b : String × Instance} : before a b = true ↔ position a < position b := by
  simp only [before, position, Prod.Lex.toLex_lt_toLex, Bool.or_eq_true, Bool.and_eq_true,
    decide_eq_true_eq, beq_iff_eq]

theorem isOrdered_iff :
    IsOrdered entries ↔ entries.Pairwise fun a b => before a b = true := by
  simp only [IsOrdered, before_iff]

instance : DecidablePred IsOrdered :=
  fun _ => decidable_of_iff _ isOrdered_iff.symm

/-- To bring instances into a state leaves them where they stand. -/
theorem IsOrdered.moved (h : IsOrdered entries) (zone name : String) (status : InstanceStatus) :
    IsOrdered (movedEntries zone name status entries) := by
  refine List.pairwise_map.mpr (h.imp fun {a b} hlt => ?_)
  unfold position at hlt ⊢
  split <;> split <;> exact hlt

/-- There is one entry for each zone and name. -/
theorem IsOrdered.distinct (h : IsOrdered entries) :
    (entries.map fun e => (e.1, e.2.name)).Nodup := by
  refine List.pairwise_map.mpr (h.imp fun {a b} hlt heq => ?_)
  exact absurd (congrArg toLex heq) hlt.ne

/-- **Adding keeps the order**, and with it one entry for each zone and name. -/
theorem isOrdered_place {i : Instance} (h : IsOrdered entries) :
    IsOrdered (place zone i entries) :=
  Table.pairwise_place (fun _ _ => same_iff) (fun _ _ => before_iff) h

end PeriodScaler.Memory.Instances
