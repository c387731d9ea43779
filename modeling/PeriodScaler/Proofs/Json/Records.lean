import PeriodScaler.Json.Record
import PeriodScaler.Proofs.Json.Fields
import PeriodScaler.Proofs.Text.Decimal
import Mathlib.Data.String.Basic

/-!
# Records that were written are read

An object in which no name repeats is a record for every list of known names, strict or loose, and
what the record gives to a known name is what the object gives to it. So reading a field comes down
to looking it up.

* **`IsRecord.record?`**, **`IsRecord.looseRecord?`**: such an object is a record of its known
  fields.
* **`Record.IsOf.required`**, **`withDefault`**, **`optional`**: each way of reading a field, told
  by the look-up.
* **`list?_map`**, **`textMap?_ofTextMap`**: lists are read item by item, and a map of texts that is
  ordered by key is read back.
-/

namespace PeriodScaler.Json

variable {α : Type}

/-- An object in which no name repeats. -/
def IsRecord (j : Json) : Prop :=
  ∃ fields, j = .object fields ∧ (fields.map Prod.fst).Nodup

/-- The record `r` holds the fields of `j` with the given names, each of them once. -/
structure Record.IsOf (names : List String) (r : Record) (j : Json) : Prop where
  distinct : (r.map Prod.fst).Nodup
  lookup : ∀ name ∈ names, lastOf? name r = j.field? name

/-- Keeping the known fields keeps what a known name is given. -/
theorem lastOf?_filter_contains {names : List String} {name : String} (h : name ∈ names)
    (fields : List (String × Json)) :
    lastOf? name (fields.filter fun (key, _) => names.contains key) = lastOf? name fields := by
  induction fields with
  | nil => rfl
  | cons field fields ih =>
    by_cases hkey : field.1 ∈ names
    · rw [List.filter_cons_of_pos (by simpa using hkey), lastOf?_cons, lastOf?_cons, ih]
    · have hother : field.1 ≠ name := fun hname => hkey (hname ▸ h)
      rw [List.filter_cons_of_neg (by simpa using hkey), ih, lastOf?_cons_of_ne hother]

theorem Record.isOf_filter {fields : List (String × Json)} (hdistinct : (fields.map Prod.fst).Nodup)
    (names : List String) :
    Record.IsOf names (fields.filter fun (key, _) => names.contains key) (.object fields) where
  distinct := hdistinct.sublist (List.filter_sublist.map Prod.fst)
  lookup := fun _ hname => lastOf?_filter_contains hname fields

/-- **An object in which no name repeats is a record** of its known fields. -/
theorem IsRecord.record? {j : Json} (h : IsRecord j) (names : List String) :
    ∃ r, j.record? names = some r ∧ r.IsOf names j := by
  obtain ⟨fields, rfl, hdistinct⟩ := h
  have hof := Record.isOf_filter hdistinct names
  exact ⟨_, by rw [Json.record?, if_pos hof.distinct], hof⟩

/-- **An object in which no name repeats is a loose record** of its known fields. -/
theorem IsRecord.looseRecord? {j : Json} (h : IsRecord j) (names : List String) :
    ∃ r, j.looseRecord? names = some r ∧ r.IsOf names j := by
  obtain ⟨fields, rfl, hdistinct⟩ := h
  exact ⟨_, rfl, Record.isOf_filter hdistinct names⟩

namespace Record.IsOf

variable {names : List String} {r : Record} {j : Json} {name : String}

theorem readings (h : r.IsOf names j) (hname : name ∈ names) (value? : Json → Option α) :
    r.readings name value? = (j.field? name).toList.mapM value? := by
  rw [Record.readings, filter_name_eq name h.distinct, h.lookup name hname]
  cases j.field? name <;> simp

/-- **A required field** is the one that is there, read. -/
theorem required (h : r.IsOf names j) (hname : name ∈ names) (value? : Json → Option α) :
    r.required name value? = (j.field? name).bind value? := by
  rw [Record.required, h.readings hname]
  cases hfield : j.field? name with
  | none => rfl
  | some value => cases hvalue : value? value <;> simp [hvalue]

/-- **A field with a default** is the one that is there, read, or the default. -/
theorem withDefault (h : r.IsOf names j) (hname : name ∈ names) (default : α)
    (value? : Json → Option α) :
    r.withDefault name default value? = ((j.field? name).map value?).getD (some default) := by
  rw [Record.withDefault, h.readings hname]
  cases hfield : j.field? name with
  | none => rfl
  | some value => cases hvalue : value? value <;> simp [hvalue]

/-- **An optional field** is the one that is there, read unless it is `null`. -/
theorem optional (h : r.IsOf names j) (hname : name ∈ names) (value? : Json → Option α) :
    r.optional name value? = ((j.field? name).map (orNull? value?)).getD (some none) := by
  rw [Record.optional, h.readings hname]
  cases hfield : j.field? name with
  | none => rfl
  | some value => cases hvalue : orNull? value? value <;> simp [hvalue]

end Record.IsOf

@[simp] theorem field?_object (name : String) (fields : List (String × Json)) :
    field? name (.object fields) = lastOf? name fields := rfl

@[simp] theorem text?_text (s : String) : text? (.text s) = some s := rfl

@[simp] theorem bool?_bool (b : Bool) : bool? (.bool b) = some b := rfl

@[simp] theorem orNull?_text (value? : Json → Option α) (s : String) :
    orNull? value? (.text s) = (value? (.text s)).map some := rfl

@[simp] theorem orNull?_object (value? : Json → Option α) (fields : List (String × Json)) :
    orNull? value? (.object fields) = (value? (.object fields)).map some := rfl

/-- **A whole number within the bounds is read back.** -/
theorem int?_ofInt {lo hi n : Int} (hlo : lo ≤ n) (hhi : n ≤ hi) :
    int? lo hi (ofInt n) = some n := by
  have hread := Text.int?_ofInt hlo hhi
  rw [ofInt, int?]
  split
  · -- A minus sign stands in front of digits that do not start with a zero.
    rename_i ds hliteral
    cases n with
    | ofNat k =>
      rw [Text.ofInt, Text.ofNat, String.toList_ofList] at hliteral
      exact absurd hliteral (Text.toDigits_ne_sign k _).2
    | negSucc k =>
      rw [Text.ofInt, Text.ofNat, String.toList_append, String.toList_ofList,
        String.toList_ofList, List.singleton_append] at hliteral
      exact absurd (List.cons.inj hliteral).2 (Text.toDigits_ne_zero (Nat.succ_ne_zero k) _)
  · rename_i ds hliteral
    cases n with
    | ofNat k =>
      rw [Text.ofInt, Text.ofNat, String.toList_ofList] at hliteral
      exact absurd hliteral (Text.toDigits_ne_sign k _).1
    | negSucc k =>
      rw [Text.ofInt, Text.ofNat, String.toList_append, String.toList_ofList,
        String.toList_ofList, List.singleton_append] at hliteral
      exact absurd (List.cons.inj hliteral).1 (by decide)
  · exact hread

/-- **A list is read back** when its items are. -/
theorem list?_map {toJson : α → Json} {ofJson? : Json → Option α} {xs : List α}
    (h : ∀ x ∈ xs, ofJson? (toJson x) = some x) :
    list? ofJson? (.array (xs.map toJson)) = some xs := by
  rw [list?]
  induction xs with
  | nil => rfl
  | cons x xs ih =>
    have hrest := ih fun y hy => h y (List.mem_cons_of_mem x hy)
    simp [h x List.mem_cons_self, hrest]

@[simp] theorem texts?_ofTexts (texts : List String) : texts? (ofTexts texts) = some texts :=
  list?_map fun _ _ => rfl

/-- A key after all the others goes to the end. -/
theorem insert_of_forall_lt {key : String} (value : String) {kept : List (String × String)}
    (h : ∀ pair ∈ kept, pair.1 < key) :
    textMap?.insert key value kept = kept ++ [(key, value)] := by
  induction kept with
  | nil => rfl
  | cons pair kept ih =>
    have hpair : pair.1 < key := h pair List.mem_cons_self
    have hrest := ih fun p hp => h p (List.mem_cons_of_mem pair hp)
    rw [textMap?.insert, if_neg (by simpa using hpair.ne), if_neg hpair.asymm, hrest,
      List.cons_append]

theorem foldl_insert_of_ordered (rest : List (String × String)) :
    ∀ kept : List (String × String), (kept ++ rest).Pairwise (fun a b => a.1 < b.1) →
      rest.foldl (fun kept pair => textMap?.insert pair.1 pair.2 kept) kept = kept ++ rest := by
  induction rest with
  | nil => intro kept _; simp
  | cons pair rest ih =>
    intro kept hordered
    have hlast : ∀ p ∈ kept, p.1 < pair.1 := fun p hp =>
      (List.pairwise_append.mp hordered).2.2 p hp pair List.mem_cons_self
    rw [List.foldl_cons, insert_of_forall_lt pair.2 hlast, ih _ (by simpa using hordered)]
    simp

/-- **A map of texts that is ordered by key is read back.** -/
theorem textMap?_ofTextMap {pairs : List (String × String)}
    (h : pairs.Pairwise fun a b => a.1 < b.1) : textMap? (ofTextMap pairs) = some pairs := by
  have hpairs : (pairs.map fun pair => (pair.1, Json.text pair.2)).mapM
      (fun field => (text? field.2).bind fun value => some (field.1, value)) = some pairs := by
    clear h
    induction pairs with
    | nil => rfl
    | cons pair pairs ih => simp_all [text?]
  simp only [textMap?, ofTextMap, Option.bind_eq_bind, Option.pure_def, hpairs, Option.bind_some]
  rw [foldl_insert_of_ordered pairs [] h, List.nil_append]

end PeriodScaler.Json
