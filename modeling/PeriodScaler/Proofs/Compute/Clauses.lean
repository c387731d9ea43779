import Mathlib.Data.List.Basic
import PeriodScaler.Compute.Filter

/-!
# The text of a filter

What a filter is put together from: the escaped values, the clauses, and the whole. Labels become a
text as soon as there is one.

* **`escaped_eq_self`**: a value without quotes is written as it is.
* **`ofLabels_eq_some`**: the clauses, with separators between them.
-/

namespace PeriodScaler.Filter

theorem escaped_quote (value : List Char) :
    escaped ('"' :: value) = '\\' :: '"' :: escaped value := rfl

theorem escaped_cons {c : Char} (h : c ≠ '"') (value : List Char) :
    escaped (c :: value) = c :: escaped value := by
  rw [escaped, List.flatMap_cons, if_neg h]
  rfl

/-- **A value without quotes** is written as it is. -/
theorem escaped_eq_self {value : List Char} (h : '"' ∉ value) : escaped value = value := by
  induction value with
  | nil => rfl
  | cons c value ih =>
    obtain ⟨hc, hvalue⟩ := List.ne_and_not_mem_of_not_mem_cons h
    rw [escaped_cons (Ne.symm hc), ih hvalue]

/-- A clause and what comes after it, up to its value and from there on. -/
theorem clause_append (label : String × String) (rest : List Char) :
    clause label ++ rest = "(labels.".toList ++ (label.1.toList ++
      (" = \"".toList ++ (escaped label.2.toList ++ '"' :: ')' :: rest))) := by
  have hclose : "\")".toList = ['"', ')'] := by decide
  unfold clause
  rw [hclose]
  simp only [List.append_assoc, List.cons_append, List.nil_append]

/-- Texts are joined as lists are. -/
theorem joined_eq_intercalate (sep : List Char) (parts : List (List Char)) :
    joined sep parts = sep.intercalate parts := by
  fun_induction joined sep parts with
  | case1 => rfl
  | case2 part => exact List.intercalate_singleton.symm
  | case3 part others hothers ih =>
    obtain ⟨other, others, rfl⟩ := List.exists_cons_of_ne_nil hothers
    rw [ih, List.intercalate_cons_cons]

/-- **A filter** has the clauses of all labels, with separators between them. -/
theorem ofLabels_eq_some {labels : Labels} (h : labels ≠ []) :
    ofLabels labels = some (String.ofList (joined " AND ".toList (labels.map clause))) := by
  obtain ⟨first, others, rfl⟩ := List.exists_cons_of_ne_nil h
  rfl

end PeriodScaler.Filter
