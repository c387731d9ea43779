import PeriodScaler.Json.MergePatch
import PeriodScaler.Proofs.Json.Records

/-!
# What a merge patch makes of an object

RFC 7386 says name by name what a patch does: a name that the patch does not hold keeps its value,
one that it holds with `null` is gone, and any other value is merged into the old one. The functions
that go through the changes one after the other do this as long as no name repeats.

* **`field?_merge`**: what a merged object gives to each name.
* **`at?_merge_of_spares`**: a value stays as it is wherever the patch spares the path to it.
-/

namespace PeriodScaler.Json

variable {name : String} {value : Json} {fields : List (String × Json)}

/-! ## One change -/

theorem lastOf?_removeField (wanted name : String) (fields : List (String × Json)) :
    lastOf? wanted (removeField name fields) =
      if name = wanted then none else lastOf? wanted fields := by
  induction fields with
  | nil => simp [removeField]
  | cons field fields ih =>
    obtain ⟨key, value⟩ := field
    rw [removeField] at ih ⊢
    by_cases hkey : key = name
    · subst hkey
      rw [List.filter_cons_of_neg (by simp), ih]
      by_cases hwanted : key = wanted
      · rw [if_pos hwanted, if_pos hwanted]
      · rw [if_neg hwanted, if_neg hwanted, lastOf?_cons_of_ne hwanted]
    · rw [List.filter_cons_of_pos (by simpa using hkey), lastOf?_cons, ih, lastOf?_cons]
      by_cases hwanted : name = wanted
      · subst hwanted
        simp [hkey]
      · simp [hwanted]

theorem names_setField (name : String) (value : Json) (fields : List (String × Json)) :
    (setField name value fields).map Prod.fst =
      if name ∈ fields.map Prod.fst then fields.map Prod.fst
      else fields.map Prod.fst ++ [name] := by
  induction fields with
  | nil => simp [setField]
  | cons field fields ih =>
    obtain ⟨key, old⟩ := field
    unfold setField
    by_cases hkey : key = name
    · simp [hkey]
    · have hname : name ≠ key := Ne.symm hkey
      rw [if_neg (by simpa using hkey), List.map_cons, ih, List.map_cons]
      by_cases hmem : name ∈ fields.map Prod.fst
      · rw [if_pos hmem, if_pos (List.mem_cons_of_mem _ hmem)]
      · rw [if_neg hmem, if_neg (fun h => (List.mem_cons.mp h).elim hname hmem), List.cons_append]

theorem distinct_setField (name : String) (value : Json)
    (h : (fields.map Prod.fst).Nodup) : ((setField name value fields).map Prod.fst).Nodup := by
  rw [names_setField]
  split
  · exact h
  · rename_i hfresh
    refine List.nodup_append.mpr ⟨h, List.nodup_singleton _, fun a ha b hb => ?_⟩
    rintro rfl
    exact hfresh (List.mem_singleton.mp hb ▸ ha)

theorem lastOf?_setField (wanted name : String) (value : Json) (h : (fields.map Prod.fst).Nodup) :
    lastOf? wanted (setField name value fields) =
      if name = wanted then some value else lastOf? wanted fields := by
  induction fields with
  | nil => rw [setField, lastOf?_cons]; simp
  | cons field fields ih =>
    obtain ⟨key, old⟩ := field
    obtain ⟨hfresh, hrest⟩ := List.nodup_cons.mp h
    unfold setField
    by_cases hkey : key = name
    · subst hkey
      rw [if_pos (by simp)]
      by_cases hwanted : key = wanted
      · subst hwanted
        rw [lastOf?_cons_self key value (lastOf?_eq_none_iff.mpr hfresh), if_pos rfl]
      · rw [lastOf?_cons_of_ne hwanted, lastOf?_cons_of_ne hwanted, if_neg hwanted]
    · rw [if_neg (by simpa using hkey), lastOf?_cons, ih hrest, lastOf?_cons]
      by_cases hwanted : name = wanted <;> simp [hwanted]

/-! ## All the changes of a patch -/

/-- What becomes of a value under what a patch says for its name: nothing, that it is removed, or
what is merged into it. -/
def changed (old : Option Json) : Option Json → Option Json
  | none => old
  | some .null => none
  | some change => some (merge (old.getD .null) change)

@[simp] theorem changed_none (old : Option Json) : changed old none = old := rfl

@[simp] theorem changed_null (old : Option Json) : changed old (some .null) = none := rfl

theorem changed_some (old : Option Json) {change : Json} (h : change ≠ .null) :
    changed old (some change) = some (merge (old.getD .null) change) := by
  cases change with
  | null => exact absurd rfl h
  | _ => rfl

/-- The changes of a patch go to their names, each merged into the value that was there before. -/
theorem mergeFields_spec {changes : List (String × Json)}
    (hchanges : (changes.map Prod.fst).Nodup) :
    ∀ fields : List (String × Json), (fields.map Prod.fst).Nodup →
      ((mergeFields fields changes).map Prod.fst).Nodup ∧
      ∀ name, lastOf? name (mergeFields fields changes) =
        changed (lastOf? name fields) (lastOf? name changes) := by
  induction changes with
  | nil => exact fun fields hfields => ⟨hfields, fun name => rfl⟩
  | cons first changes ih =>
    intro fields hfields
    obtain ⟨key, change⟩ := first
    obtain ⟨hfresh, hrest⟩ := List.nodup_cons.mp hchanges
    have hnone : lastOf? key changes = none := lastOf?_eq_none_iff.mpr hfresh
    by_cases hnull : change = .null
    · subst hnull
      obtain ⟨hdistinct, hlast⟩ := ih hrest (removeField key fields)
        (hfields.sublist (List.filter_sublist.map Prod.fst))
      rw [mergeFields]
      refine ⟨hdistinct, fun name => ?_⟩
      rw [hlast, lastOf?_removeField]
      by_cases hkey : key = name
      · subst hkey
        rw [if_pos rfl, lastOf?_cons_self key .null hnone, hnone, changed_none, changed_null]
      · rw [if_neg hkey, lastOf?_cons_of_ne hkey]
    · obtain ⟨hdistinct, hlast⟩ := ih hrest
        (setField key (merge ((lastOf? key fields).getD .null) change) fields)
        (distinct_setField key _ hfields)
      rw [mergeFields]
      · refine ⟨hdistinct, fun name => ?_⟩
        rw [hlast, lastOf?_setField name key _ hfields]
        by_cases hkey : key = name
        · subst hkey
          rw [if_pos rfl, lastOf?_cons_self key change hnone, hnone, changed_none,
            changed_some _ hnull]
        · rw [if_neg hkey, lastOf?_cons_of_ne hkey]
      · exact hnull

/-! ## Objects -/

/-- No name repeats among the fields of the value, if it has any. -/
def IsSimple (j : Json) : Prop :=
  ((fieldsOrNone j).map Prod.fst).Nodup

theorem field?_eq_lastOf? (name : String) (j : Json) :
    j.field? name = lastOf? name (fieldsOrNone j) := by
  cases j <;> rfl

theorem isSimple_null : IsSimple .null := List.nodup_nil

theorem IsRecord.isSimple {j : Json} (h : IsRecord j) : IsSimple j := by
  obtain ⟨fields, rfl, hdistinct⟩ := h
  exact hdistinct

namespace IsSimple

variable {j : Json} {changes : List (String × Json)}

/-- What is made by a patch that is an object is an object in which no name repeats. -/
theorem isRecord_merge (h : IsSimple j) (hchanges : (changes.map Prod.fst).Nodup) :
    IsRecord (j.merge (.object changes)) :=
  ⟨_, by rw [merge], (mergeFields_spec hchanges _ h).1⟩

/-- **What a merged object gives to a name.** -/
theorem field?_merge (h : IsSimple j) (hchanges : (changes.map Prod.fst).Nodup) (name : String) :
    (j.merge (.object changes)).field? name = changed (j.field? name) (lastOf? name changes) := by
  rw [merge, field?_object, (mergeFields_spec hchanges _ h).2 name, field?_eq_lastOf?]

end IsSimple

/-- No object inside repeats a name. -/
inductive Distinct : Json → Prop
  | null : Distinct .null
  | bool (b : Bool) : Distinct (.bool b)
  | number (literal : String) : Distinct (.number literal)
  | text (s : String) : Distinct (.text s)
  | array {items : List Json} (h : ∀ item ∈ items, Distinct item) : Distinct (.array items)
  | object {fields : List (String × Json)} (hnames : (fields.map Prod.fst).Nodup)
      (h : ∀ field ∈ fields, Distinct field.2) : Distinct (.object fields)
  | unreadable : Distinct .unreadable

namespace Distinct

variable {j : Json}

theorem isSimple (h : Distinct j) : IsSimple j := by
  cases h with
  | object hnames => exact hnames
  | _ => exact List.nodup_nil

theorem field? (h : Distinct j) (hvalue : j.field? name = some value) : Distinct value := by
  cases h with
  | object hnames h => exact h _ (mem_of_lastOf? hvalue)
  | _ => cases hvalue

/-- What the field holds, or nothing at all. -/
theorem getD_field? (h : Distinct j) (name : String) : Distinct ((j.field? name).getD .null) := by
  cases hvalue : j.field? name with
  | none => exact .null
  | some value => exact h.field? hvalue

end Distinct

theorem distinct_object_iff : Distinct (.object fields) ↔
    (fields.map Prod.fst).Nodup ∧ ∀ field ∈ fields, Distinct field.2 := by
  constructor
  · rintro ⟨⟩
    exact ⟨‹_›, ‹_›⟩
  · rintro ⟨hnames, h⟩
    exact .object hnames h

/-! ## Paths -/

/-- The value at the end of a path of names. -/
def at? : List String → Json → Option Json
  | [], j => some j
  | name :: rest, j => (j.field? name).bind (at? rest)

/-- A patch spares a path when it holds nothing for a name on the way. -/
def spares : List String → Json → Prop
  | name :: rest, .object changes =>
    ∀ change, lastOf? name changes = some change → spares rest change
  | _, _ => False

/-- **A value stays as it is wherever the patch spares the path to it.** -/
theorem at?_merge_of_spares {path : List String} :
    ∀ {j patch : Json}, Distinct j → Distinct patch → spares path patch →
      at? path (j.merge patch) = at? path j := by
  induction path with
  | nil => exact fun _ _ hspares => absurd hspares id
  | cons name rest ih =>
    intro j patch hj hpatch hspares
    cases patch with
    | object changes =>
      have hchanges : (changes.map Prod.fst).Nodup := hpatch.isSimple
      rw [at?, at?, hj.isSimple.field?_merge hchanges]
      cases hchange : lastOf? name changes with
      | none => rw [changed_none]
      | some change =>
        have hdeeper : spares rest change := hspares change hchange
        have hnull : change ≠ .null := by
          rintro rfl
          cases rest <;> exact hdeeper
        have hmore : rest ≠ [] := by
          rintro rfl
          cases change <;> exact hdeeper
        rw [changed_some _ hnull, Option.bind_some,
          ih (hj.getD_field? name) (hpatch.field? hchange) hdeeper]
        cases hold : j.field? name with
        | some old => rfl
        | none =>
          obtain ⟨next, rest, rfl⟩ := List.exists_cons_of_ne_nil hmore
          rfl
    | _ => exact absurd hspares id

/-- The patch that puts one value at the end of a path. -/
def leafPatch : List String → Json → Json
  | [], value => value
  | name :: rest, value => .object [(name, leafPatch rest value)]

theorem distinct_leafPatch (path : List String) {value : Json} (h : Distinct value) :
    Distinct (leafPatch path value) := by
  induction path with
  | nil => exact h
  | cons name rest ih =>
    refine .object (List.nodup_singleton _) fun field hfield => ?_
    obtain rfl := List.mem_singleton.mp hfield
    exact ih

/-- The patch of one value spares every path that neither leads to it nor through it. -/
theorem spares_leafPatch {leaf : List String} (value : Json) :
    ∀ {path : List String}, ¬ path <+: leaf → ¬ leaf <+: path →
      spares path (leafPatch leaf value) := by
  induction leaf with
  | nil => exact fun _ hthrough => absurd (List.nil_prefix) hthrough
  | cons name rest ih =>
    intro path hto hthrough
    cases path with
    | nil => exact absurd (List.nil_prefix) hto
    | cons first path =>
      intro change hchange
      obtain ⟨hname, rfl⟩ : name = first ∧ leafPatch rest value = change := by
        simpa [lastOf?_cons] using hchange
      subst hname
      exact ih (fun h => hto (List.cons_prefix_cons.mpr ⟨rfl, h⟩))
        (fun h => hthrough (List.cons_prefix_cons.mpr ⟨rfl, h⟩))

/-- The patch of one value changes what stands at the end of its path. -/
theorem at?_merge_leafPatch (value : Json) (rest : List String) :
    ∀ (name : String) {j : Json}, Distinct j →
      ∃ old, at? (name :: rest) (j.merge (leafPatch (name :: rest) value)) =
        changed old (some value) := by
  induction rest with
  | nil =>
    intro name j hj
    refine ⟨j.field? name, ?_⟩
    rw [at?, leafPatch, leafPatch, hj.isSimple.field?_merge (by simp),
      lastOf?_cons_self _ _ rfl]
    cases changed (j.field? name) (some value) <;> rfl
  | cons next rest ih =>
    intro name j hj
    obtain ⟨old, hold⟩ := ih next (hj.getD_field? name)
    refine ⟨old, ?_⟩
    rw [at?, leafPatch, hj.isSimple.field?_merge (by simp),
      lastOf?_cons_self _ _ rfl, changed_some _ Json.noConfusion, Option.bind_some, hold]

end PeriodScaler.Json
