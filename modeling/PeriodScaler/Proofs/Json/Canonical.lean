import PeriodScaler.Proofs.Json.Records
import Mathlib.Data.List.Sort
import Mathlib.Data.String.Basic

/-!
# Values up to the order of fields

Two objects are the same when they give the same value to every name, in whatever order their fields
stand. `canonical` chooses one of them: its fields rise by name, and a list of rising fields is
known by what it gives to each name.

* **`lastOf?_canonicalFields`**, **`isRising_canonicalFields`**: the fields of a canonical object
  rise and give to each name the canonical form of what the object gives to it.
* **`canonical_object_eq_iff`**: and there is only one such list.
* **`IsRecord.canonical_congr`**: objects that agree on every name have one canonical form.
-/

namespace PeriodScaler.Json

variable {name : String} {value : Json} {fields : List (String × Json)}

/-- The fields rise by name; so no name repeats. -/
def IsRising (fields : List (String × Json)) : Prop :=
  fields.Pairwise fun a b => a.1 < b.1

theorem IsRising.distinct (h : IsRising fields) : (fields.map Prod.fst).Nodup :=
  List.pairwise_map.mpr (h.imp fun hlt => hlt.ne)

/-! ## Inserting by name -/

theorem mem_insertSorted {field : String × Json} (h : field ∈ insertSorted name value fields) :
    field = (name, value) ∨ field ∈ fields := by
  induction fields with
  | nil => exact .inl (List.mem_singleton.mp h)
  | cons first rest ih =>
    unfold insertSorted at h
    split at h
    · exact (List.mem_cons.mp h).imp_right (List.mem_cons_of_mem first)
    · split at h
      · exact List.mem_cons.mp h
      · obtain rfl | h := List.mem_cons.mp h
        · exact .inr List.mem_cons_self
        · exact (ih h).imp_right (List.mem_cons_of_mem first)

theorem isRising_insertSorted (name : String) (value : Json) (h : IsRising fields) :
    IsRising (insertSorted name value fields) := by
  induction fields with
  | nil => exact List.pairwise_singleton _ _
  | cons first rest ih =>
    obtain ⟨hfirst, hrest⟩ := List.pairwise_cons.mp h
    unfold insertSorted
    split
    · rename_i hsame
      refine List.pairwise_cons.mpr ⟨fun field hfield => ?_, hrest⟩
      rw [← eq_of_beq hsame]
      exact hfirst field hfield
    · rename_i hother
      split
      · rename_i hbefore
        refine List.pairwise_cons.mpr ⟨fun field hfield => ?_, h⟩
        obtain rfl | hfield := List.mem_cons.mp hfield
        · exact hbefore
        · exact hbefore.trans (hfirst field hfield)
      · rename_i hbefore
        have hafter : first.1 < name :=
          (not_lt.mp hbefore).lt_of_ne fun heq => hother (beq_iff_eq.mpr heq)
        refine List.pairwise_cons.mpr ⟨fun field hfield => ?_, ih hrest⟩
        obtain rfl | hfield := mem_insertSorted hfield
        · exact hafter
        · exact hfirst field hfield

/-- Inserting by name gives the new value to its name and leaves every other name alone. -/
theorem lastOf?_insertSorted (wanted name : String) (value : Json) (h : IsRising fields) :
    lastOf? wanted (insertSorted name value fields) =
      if name = wanted then some value else lastOf? wanted fields := by
  induction fields with
  | nil => rw [insertSorted, lastOf?_cons]; simp
  | cons first rest ih =>
    obtain ⟨key, old⟩ := first
    obtain ⟨hfirst, hrest⟩ := List.pairwise_cons.mp h
    -- What comes after the inserted name does not hold it again.
    have hfresh : ∀ {k : String} {later : List (String × Json)},
        (∀ field ∈ later, k < field.1) → lastOf? k later = none := by
      intro k later hlater
      refine lastOf?_eq_none_iff.mpr fun hmem => ?_
      obtain ⟨field, hfield, hkey⟩ := List.mem_map.mp hmem
      exact absurd (hlater field hfield) (hkey ▸ lt_irrefl k)
    unfold insertSorted
    split
    · rename_i hsame
      obtain rfl := eq_of_beq hsame
      by_cases hwanted : key = wanted
      · subst hwanted
        rw [lastOf?_cons_self key value (hfresh hfirst), if_pos rfl]
      · rw [lastOf?_cons_of_ne hwanted, lastOf?_cons_of_ne hwanted, if_neg hwanted]
    · rename_i hother
      split
      · rename_i hbefore
        by_cases hwanted : name = wanted
        · subst hwanted
          have hnone : lastOf? name ((key, old) :: rest) = none := by
            refine hfresh fun field hfield => ?_
            obtain rfl | hfield := List.mem_cons.mp hfield
            · exact hbefore
            · exact hbefore.trans (hfirst field hfield)
          rw [lastOf?_cons_self name value hnone, if_pos rfl]
        · rw [lastOf?_cons_of_ne hwanted, if_neg hwanted]
      · rw [lastOf?_cons, ih hrest, lastOf?_cons]
        by_cases hwanted : name = wanted
        · simp [hwanted]
        · simp [hwanted]

/-! ## Canonical objects -/

theorem canonicalFields_spec (fields : List (String × Json)) :
    ∀ done, IsRising done → IsRising (canonicalFields done fields) ∧
      ∀ name, lastOf? name (canonicalFields done fields) =
        ((lastOf? name fields).map canonical).or (lastOf? name done) := by
  induction fields with
  | nil => exact fun done hdone => ⟨hdone, fun name => rfl⟩
  | cons field fields ih =>
    intro done hdone
    obtain ⟨key, value⟩ := field
    obtain ⟨hrising, hlast⟩ := ih _ (isRising_insertSorted key value.canonical hdone)
    refine ⟨hrising, fun name => ?_⟩
    rw [canonicalFields, hlast, lastOf?_insertSorted name key value.canonical hdone, lastOf?_cons]
    by_cases hkey : key = name <;> cases lastOf? name fields <;> simp [hkey]

/-- **The fields of a canonical object rise** by name. -/
theorem isRising_canonicalFields (fields : List (String × Json)) :
    IsRising (canonicalFields [] fields) :=
  (canonicalFields_spec fields [] List.Pairwise.nil).1

/-- **A canonical object gives to each name** the canonical form of what the object gives to it. -/
theorem lastOf?_canonicalFields (name : String) (fields : List (String × Json)) :
    lastOf? name (canonicalFields [] fields) = (lastOf? name fields).map canonical := by
  rw [(canonicalFields_spec fields [] List.Pairwise.nil).2 name, lastOf?_nil, Option.or_none]

/-- Rising fields are known by what they give to each name. -/
theorem IsRising.ext {a b : List (String × Json)} (ha : IsRising a) (hb : IsRising b)
    (h : ∀ name, lastOf? name a = lastOf? name b) : a = b := by
  have hmem : ∀ field, field ∈ a ↔ field ∈ b := fun field => by
    rw [← lastOf?_eq_some_iff ha.distinct, ← lastOf?_eq_some_iff hb.distinct, h field.1]
  have hperm : a.Perm b :=
    (List.perm_ext_iff_of_nodup ha.distinct.of_map hb.distinct.of_map).mpr hmem
  exact hperm.eq_of_pairwise (fun x y _ _ hxy hyx => absurd hxy hyx.asymm) ha hb

/-- **The canonical form of an object** is the one of rising fields that gives to each name the
canonical form of its value. -/
theorem canonical_object_eq_iff {rising : List (String × Json)} :
    canonical (.object fields) = .object rising ↔
      IsRising rising ∧ ∀ name, lastOf? name rising = (lastOf? name fields).map canonical := by
  rw [canonical, Json.object.injEq]
  constructor
  · rintro rfl
    exact ⟨isRising_canonicalFields fields, fun name => lastOf?_canonicalFields name fields⟩
  · rintro ⟨hrising, hlast⟩
    refine (isRising_canonicalFields fields).ext hrising fun name => ?_
    rw [lastOf?_canonicalFields, hlast]

/-- **Objects that agree on every name have one canonical form.** -/
theorem IsRecord.canonical_congr {a b : Json} (ha : IsRecord a) (hb : IsRecord b)
    (h : ∀ name, (a.field? name).map canonical = (b.field? name).map canonical) :
    a.canonical = b.canonical := by
  obtain ⟨fields, rfl, -⟩ := ha
  obtain ⟨others, rfl, -⟩ := hb
  rw [canonical, canonical, Json.object.injEq]
  refine (isRising_canonicalFields fields).ext (isRising_canonicalFields others) fun name => ?_
  rw [lastOf?_canonicalFields, lastOf?_canonicalFields]
  exact h name

/-! ## Maps of texts -/

/-- The fields of a map of texts. -/
def textFields (pairs : List (String × String)) : List (String × Json) :=
  pairs.map fun pair => (pair.1, .text pair.2)

theorem ofTextMap_eq (pairs : List (String × String)) :
    ofTextMap pairs = .object (textFields pairs) :=
  rfl

theorem textFields_injective : Function.Injective textFields := by
  refine List.map_injective_iff.mpr fun a b h => ?_
  obtain ⟨hkey, hvalue⟩ := Prod.mk.inj h
  exact Prod.ext hkey (Json.text.inj hvalue)

theorem textFields_insert (key value : String) (pairs : List (String × String)) :
    textFields (textMap?.insert key value pairs) =
      insertSorted key (.text value) (textFields pairs) := by
  induction pairs with
  | nil => rfl
  | cons pair pairs ih =>
    rw [textFields] at ih ⊢
    rw [textMap?.insert, textFields, List.map_cons, insertSorted]
    split
    · rfl
    · split
      · rfl
      · rw [List.map_cons, ih, textFields]

theorem canonicalFields_textFields (given : List (String × String)) :
    ∀ kept, canonicalFields (textFields kept) (textFields given) =
      textFields (given.foldl (fun kept pair => textMap?.insert pair.1 pair.2 kept) kept) := by
  induction given with
  | nil => intro kept; rfl
  | cons pair given ih =>
    intro kept
    rw [List.foldl_cons, ← ih, textFields_insert]
    rfl

theorem canonical_eq_text_iff {j : Json} {s : String} : j.canonical = .text s ↔ j = .text s := by
  cases j <;> simp [canonical]

/-- What is read as a map of texts are fields that hold texts, gathered in order of names. -/
theorem textMap?_eq_some_iff {pairs : List (String × String)} :
    textMap? (.object fields) = some pairs ↔
      ∃ given, fields = textFields given ∧
        given.foldl (fun kept pair => textMap?.insert pair.1 pair.2 kept) [] = pairs := by
  have hgiven : ∀ given : List (String × String),
      fields.mapM (fun field => (text? field.2).bind fun value => some (field.1, value)) =
        some given ↔ fields = textFields given := by
    induction fields with
    | nil => intro given; cases given <;> simp [textFields]
    | cons field fields ih =>
      intro given
      obtain ⟨name, value⟩ := field
      cases given with
      | nil => cases value <;> simp [textFields, text?, Option.bind_eq_some_iff]
      | cons pair given =>
        cases value with
        | text s =>
          simp only [List.mapM_cons, text?, Option.bind_eq_bind, Option.bind_some, Option.pure_def,
            Option.bind_eq_some_iff, Option.some.injEq, List.cons.injEq, textFields, List.map_cons,
            Prod.mk.injEq, Json.text.injEq]
          constructor
          · rintro ⟨rest, hrest, rfl, rfl⟩
            exact ⟨⟨rfl, rfl⟩, (ih rest).mp hrest⟩
          · rintro ⟨⟨hname, hs⟩, hrest⟩
            exact ⟨given, (ih given).mpr hrest, by rw [hname, hs], rfl⟩
        | _ => simp [textFields, text?]
  simp only [textMap?, Option.bind_eq_bind, Option.pure_def, Option.bind_eq_some_iff,
    Option.some.injEq]
  exact exists_congr fun given => and_congr (hgiven given) Iff.rfl

/-- **The map of texts that a value is read as is its canonical form.** -/
theorem canonical_of_textMap? {j : Json} {pairs : List (String × String)}
    (h : textMap? j = some pairs) : j.canonical = ofTextMap pairs := by
  cases j with
  | object fields =>
    obtain ⟨given, rfl, rfl⟩ := textMap?_eq_some_iff.mp h
    rw [canonical, ofTextMap_eq]
    exact congrArg _ (canonicalFields_textFields given [])
  | _ => cases h

/-- **An object is read as the map of texts that is its canonical form**, if no name repeats. -/
theorem IsRecord.textMap?_of_canonical {j : Json} {pairs : List (String × String)} (hj : IsRecord j)
    (h : j.canonical = ofTextMap pairs) : textMap? j = some pairs := by
  obtain ⟨fields, rfl, hdistinct⟩ := hj
  obtain ⟨-, hlast⟩ := canonical_object_eq_iff.mp (h.trans (ofTextMap_eq pairs))
  -- Every field holds a text, because its canonical form is one.
  have htext : ∀ field ∈ fields, ∃ s, field.2 = .text s := by
    intro field hfield
    have hvalue := hlast field.1
    rw [(lastOf?_eq_some_iff hdistinct).mpr hfield, Option.map_some] at hvalue
    obtain ⟨pair, -, hpair⟩ := List.mem_map.mp (mem_of_lastOf? hvalue)
    exact ⟨pair.2, canonical_eq_text_iff.mp (Prod.mk.inj hpair).2.symm⟩
  have hfields : fields =
      textFields (fields.map fun field => (field.1, (text? field.2).getD "")) := by
    rw [textFields, List.map_map]
    refine (List.map_id fields).symm.trans (List.map_congr_left fun field hfield => ?_)
    obtain ⟨s, hs⟩ := htext field hfield
    simp [hs, Prod.ext_iff]
  have hread := textMap?_eq_some_iff.mpr ⟨_, hfields, rfl⟩
  have hsame := (canonical_of_textMap? hread).symm.trans h
  rw [hread]
  exact congrArg some (textFields_injective (Json.object.inj hsame))

end PeriodScaler.Json
