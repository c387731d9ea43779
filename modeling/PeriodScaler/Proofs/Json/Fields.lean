import PeriodScaler.Json.Basic
import Mathlib.Data.List.Nodup

/-!
# The fields of an object

What a list of fields gives to a name is the last value it holds for it; `lastOf?` is told here by
equations on the ways in which lists of fields are built, and by membership when no name repeats.
-/

namespace PeriodScaler.Json

variable {name : String} {value : Json} {fields : List (String × Json)}

@[simp] theorem lastOf?_nil (name : String) : lastOf? name [] = none := rfl

theorem lastOf?_append (name : String) (before after : List (String × Json)) :
    lastOf? name (before ++ after) = (lastOf? name after).or (lastOf? name before) := by
  -- The fold keeps what it started with until a later field has the name.
  have hkeep : ∀ (fields : List (String × Json)) (found : Option Json),
      fields.foldl (fun found field => if field.1 == name then some field.2 else found) found =
        (lastOf? name fields).or found := by
    intro fields
    induction fields with
    | nil => intro found; rfl
    | cons field fields ih =>
      intro found
      have hfirst := ih (if field.1 == name then some field.2 else none)
      rw [List.foldl_cons, ih]
      simp only [lastOf?, List.foldl_cons] at hfirst ⊢
      rw [hfirst, Option.or_assoc]
      by_cases hkey : field.1 = name <;> simp [hkey]
  simp only [lastOf?, List.foldl_append] at hkeep ⊢
  exact hkeep after _

theorem lastOf?_cons (name key : String) (value : Json) (rest : List (String × Json)) :
    lastOf? name ((key, value) :: rest) =
      (lastOf? name rest).or (if key = name then some value else none) := by
  rw [← List.singleton_append, lastOf?_append]
  simp [lastOf?]

theorem lastOf?_cons_self (name : String) (value : Json) {rest : List (String × Json)}
    (h : lastOf? name rest = none) : lastOf? name ((name, value) :: rest) = some value := by
  rw [lastOf?_cons, h, Option.none_or, if_pos rfl]

theorem lastOf?_cons_of_ne {key : String} (h : key ≠ name) (value : Json)
    (rest : List (String × Json)) : lastOf? name ((key, value) :: rest) = lastOf? name rest := by
  rw [lastOf?_cons, if_neg h, Option.or_none]

/-- A name has no value exactly when it is not among the names. -/
theorem lastOf?_eq_none_iff : lastOf? name fields = none ↔ name ∉ fields.map Prod.fst := by
  induction fields with
  | nil => simp
  | cons field fields ih =>
    rw [lastOf?_cons, Option.or_eq_none_iff, ih, List.map_cons, List.mem_cons, not_or, and_comm]
    simp [eq_comm]

theorem mem_of_lastOf? (h : lastOf? name fields = some value) : (name, value) ∈ fields := by
  induction fields with
  | nil => cases h
  | cons field fields ih =>
    rw [lastOf?_cons, Option.or_eq_some_iff] at h
    obtain h | ⟨-, h⟩ := h
    · exact List.mem_cons_of_mem _ (ih h)
    · obtain ⟨hkey, hvalue⟩ := Option.ite_none_right_eq_some.mp h
      rw [← hkey, ← Option.some.inj hvalue]
      exact List.mem_cons_self

/-- When no name repeats, the value of a name is that of its one field. -/
theorem lastOf?_eq_some_iff (hdistinct : (fields.map Prod.fst).Nodup) :
    lastOf? name fields = some value ↔ (name, value) ∈ fields := by
  refine ⟨mem_of_lastOf?, fun hmem => ?_⟩
  induction fields with
  | nil => cases hmem
  | cons field fields ih =>
    obtain ⟨hfresh, hrest⟩ := List.nodup_cons.mp hdistinct
    obtain rfl | hmem := List.mem_cons.mp hmem
    · exact lastOf?_cons_self name value (lastOf?_eq_none_iff.mpr hfresh)
    · rw [lastOf?_cons, ih hrest hmem, Option.some_or]

/-- When no name repeats, at most one field has a given one. -/
theorem filter_name_eq (name : String) (hdistinct : (fields.map Prod.fst).Nodup) :
    fields.filter (fun (key, _) => key == name) =
      (lastOf? name fields).toList.map fun value => (name, value) := by
  induction fields with
  | nil => rfl
  | cons field fields ih =>
    obtain ⟨key, value⟩ := field
    obtain ⟨hfresh, hrest⟩ := List.nodup_cons.mp hdistinct
    by_cases hkey : key = name
    · subst hkey
      have hnone : lastOf? key fields = none := lastOf?_eq_none_iff.mpr hfresh
      rw [List.filter_cons_of_pos (by simp), ih hrest, lastOf?_cons_self key value hnone, hnone]
      rfl
    · rw [List.filter_cons_of_neg (by simpa using hkey), ih hrest, lastOf?_cons_of_ne hkey]

end PeriodScaler.Json
