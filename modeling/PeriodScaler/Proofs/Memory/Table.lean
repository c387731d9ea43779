import PeriodScaler.Memory.Table
import Mathlib.Order.Lattice
import Mathlib.Tactic.Common

/-!
# Entries in their places

A table whose entries rise by position still does when an entry was put in its place, and the other
entries are those that were there before. In a table of keys with values, what is looked up is the
value that was put under the key last.

* **`pairwise_place`**: putting in an entry keeps the order.
* **`lookup_place`**, **`lookup_place_of_ne`**: putting something under a key changes this key only.
-/

namespace PeriodScaler.Memory.Table

/-! ## Order -/

section Order

variable {α κ : Type} {same before : α → α → Bool} {e x : α} {entries : List α}

theorem mem_place (h : x ∈ place same before e entries) : x = e ∨ x ∈ entries := by
  induction entries with
  | nil => exact Or.inl (List.mem_singleton.mp h)
  | cons y rest ih =>
    unfold place at h
    split at h
    · exact (List.mem_cons.mp h).imp_right (List.mem_cons_of_mem y)
    · split at h
      · exact List.mem_cons.mp h
      · rcases List.mem_cons.mp h with rfl | h
        · exact Or.inr List.mem_cons_self
        · exact (ih h).imp_right (List.mem_cons_of_mem y)

/-- **Putting in an entry keeps the order**, when two entries are the same that have one position,
and one comes before another that has a lower one. -/
theorem pairwise_place [LinearOrder κ] {position : α → κ}
    (hsame : ∀ a b, same a b = true ↔ position a = position b)
    (hbefore : ∀ a b, before a b = true ↔ position a < position b)
    (h : entries.Pairwise fun a b => position a < position b) :
    (place same before e entries).Pairwise fun a b => position a < position b := by
  induction entries with
  | nil => exact List.pairwise_singleton _ _
  | cons y rest ih =>
    obtain ⟨hy, hrest⟩ := List.pairwise_cons.mp h
    unfold place
    split
    · rename_i heq
      exact List.pairwise_cons.mpr ⟨fun x hx => (hsame e y).mp heq ▸ hy x hx, hrest⟩
    · rename_i hne
      split
      · rename_i hlt
        have hlt := (hbefore e y).mp hlt
        refine List.pairwise_cons.mpr ⟨fun x hx => ?_, h⟩
        rcases List.mem_cons.mp hx with rfl | hx
        · exact hlt
        · exact hlt.trans (hy x hx)
      · rename_i hnot
        have hafter : position y < position e :=
          (not_lt.mp ((hbefore e y).not.mp hnot)).lt_of_ne fun heq => hne ((hsame e y).mpr heq.symm)
        refine List.pairwise_cons.mpr ⟨fun x hx => ?_, ih hrest⟩
        rcases mem_place hx with rfl | hx
        · exact hafter
        · exact hy x hx

end Order

/-! ## Keys -/

section Keys

variable {κ β : Type} [BEq κ] [LawfulBEq κ] {before : κ × β → κ × β → Bool}

theorem lookup_place (key : κ) (value : β) : ∀ entries : List (κ × β),
    (place (fun a b => a.1 == b.1) before (key, value) entries).lookup key = some value
  | [] => List.lookup_cons_self
  | (k, v) :: rest => by
    unfold place
    split
    · exact List.lookup_cons_self
    · rename_i hne
      split
      · exact List.lookup_cons_self
      · rw [List.lookup_cons, Bool.eq_false_iff.mpr hne]
        exact lookup_place key value rest

theorem lookup_place_of_ne {key other : κ} (hne : other ≠ key) (value : β) :
    ∀ entries : List (κ × β),
      (place (fun a b => a.1 == b.1) before (key, value) entries).lookup other =
        entries.lookup other
  | [] => by
    rw [place, List.lookup_cons, beq_false_of_ne hne]
  | (k, v) :: rest => by
    unfold place
    split
    · rename_i heq
      have hk : (other == k) = false := (eq_of_beq heq : key = k) ▸ beq_false_of_ne hne
      rw [List.lookup_cons, List.lookup_cons, hk, beq_false_of_ne hne]
    · split
      · rw [List.lookup_cons, beq_false_of_ne hne]
      · rw [List.lookup_cons, List.lookup_cons, lookup_place_of_ne hne value rest]

end Keys

end PeriodScaler.Memory.Table
