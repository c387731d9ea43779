import PeriodScaler.Memory.Instances
import PeriodScaler.Memory.Workloads
import PeriodScaler.Proofs.Compute.Clauses
import PeriodScaler.Proofs.Text.Pieces

/-!
# Selections by labels in memory

A selection goes through a text: a filter for instances, a selector for workloads. The text is put
together from the selected labels and taken apart again by whoever lists. What is listed are the
carriers of the labels: those that have every selected pair, whatever else they are labelled with.
Without selected labels this is everything.

This needs labels that the text keeps apart (`Separable`), which labels over the usual characters
are. A value may be empty.

* **`Filter.readClause?_clause`**: a clause of a filter is read as the label that it was made of.
* **`Filter.accepts_ofLabels_iff`**, **`Selector.accepts_ofLabels_iff`**: what a text accepts.
* **`list_carriers`**: what is listed for a selection.
-/

namespace PeriodScaler

/-- Stored labels have every selected pair. -/
def Labels.Carries (stored selected : Labels) : Prop :=
  ∀ label ∈ selected, stored.lookup label.1 = some label.2

instance (stored selected : Labels) : Decidable (stored.Carries selected) :=
  inferInstanceAs (Decidable (∀ label ∈ selected, stored.lookup label.1 = some label.2))

/-! ## Filters -/

namespace Filter

open Text (Avoids avoids_of_notMem)

/-- A label that a filter keeps apart: the key has neither blanks nor points, the value neither
spaces nor quotes. -/
structure Separable (label : String × String) : Prop where
  key_blank : ∀ c ∈ label.1.toList, Text.isBlank c = false
  key_point : '.' ∉ label.1.toList
  value_space : ' ' ∉ label.2.toList
  value_quote : '"' ∉ label.2.toList

theorem dropWhile_self (c : Char) (cs : List Char) :
    (c :: cs).dropWhile (· = c) = cs.dropWhile (· = c) := by
  simp

theorem dropWhile_of_ne {c d : Char} (h : d ≠ c) (cs : List Char) :
    (d :: cs).dropWhile (· = c) = d :: cs := by
  simp [h]

/-- One character is taken off an end that does not have it twice. -/
theorem dropEnd_concat {c : Char} {cs : List Char} (h : cs.getLast? ≠ some c) :
    dropEnd c (cs ++ [c]) = cs := by
  rw [dropEnd, List.reverse_append, List.reverse_singleton, List.singleton_append, dropWhile_self]
  cases hcs : cs.reverse with
  | nil => rw [List.reverse_eq_nil_iff.mp hcs]; rfl
  | cons d rest =>
    have hd : d ≠ c := fun hd => h (by rw [← List.head?_reverse, hcs, hd]; rfl)
    rw [dropWhile_of_ne hd, ← hcs, List.reverse_reverse]

/-- Quotes are taken off a value without quotes. -/
theorem unquoted {value : List Char} (h : '"' ∉ value) :
    dropEnd '"' (('"' :: (value ++ ['"'])).dropWhile (· = '"')) = value := by
  rw [dropWhile_self]
  cases value with
  | nil => rfl
  | cons c value =>
    have hc : c ≠ '"' := fun hc => h (hc ▸ List.mem_cons_self)
    rw [List.cons_append, dropWhile_of_ne hc, ← List.cons_append]
    exact dropEnd_concat fun hlast => h (List.mem_of_getLast? hlast)

section Clause

variable {label : String × String}

/-- The clause of a label whose value has no quotes, as it is taken apart. -/
theorem clause_eq (h : Separable label) : clause label =
    '(' :: ("labels.".toList ++ label.1.toList ++
      (" = ".toList ++ '"' :: (label.2.toList ++ ['"'])) ++ [')']) := by
  have hopen : "(labels.".toList = '(' :: "labels.".toList := by decide
  have hmiddle : " = \"".toList = " = ".toList ++ ['"'] := by decide
  rw [← List.append_nil (clause label), clause_append, escaped_eq_self h.value_quote, hopen,
    hmiddle]
  simp only [List.append_assoc, List.cons_append, List.nil_append]

theorem space_notMem_key (h : Separable label) : ' ' ∉ label.1.toList := by
  intro hspace
  cases h.key_blank ' ' hspace

/-- No separator of clauses starts inside a clause. -/
theorem avoids_clause (h : Separable label) : Avoids " AND ".toList (clause label) := by
  have hsep : " AND ".toList = [' ', 'A', 'N', 'D', ' '] := by decide
  have hmiddle : " = \"".toList = [' ', '=', ' ', '"'] := by decide
  unfold clause
  rw [escaped_eq_self h.value_quote, hsep, hmiddle]
  refine Avoids.append (Avoids.append (Avoids.append (Avoids.append ?_ ?_) ?_) ?_) ?_
  · exact avoids_of_notMem _ (by decide)
  · exact avoids_of_notMem _ (space_notMem_key h)
  · simp [Avoids]
  · exact avoids_of_notMem _ h.value_space
  · exact avoids_of_notMem _ (by decide)

/-- The lead is taken off a key, once. -/
theorem dropLeads_key (h : '.' ∉ label.1.toList) (n : Nat) :
    dropLeads "labels.".toList (n + 1) ("labels.".toList ++ label.1.toList) = label.1.toList := by
  have hnone : Text.dropLead? "labels.".toList label.1.toList = none :=
    Text.dropLead?_of_notMem ['l', 'a', 'b', 'e', 'l', 's'] h
  rw [dropLeads, Text.dropLead?_append]
  cases n with
  | zero => rfl
  | succ n => simp only [dropLeads, hnone]

/-- **A clause is read** as the label that it was made of. -/
theorem readClause?_clause (h : Separable label) : readClause? (clause label) = some label := by
  let named := "labels.".toList ++ label.1.toList
  let quoted := '"' :: (label.2.toList ++ ['"'])
  have hlead : ∀ c ∈ "labels.".toList, Text.isBlank c = false := Text.not_blank_of_all (by decide)
  have hblank : ∀ c ∈ named, Text.isBlank c = false :=
    List.forall_mem_append.mpr ⟨hlead, h.key_blank⟩
  have hspace : ' ' ∉ named := fun hspace => Bool.noConfusion (hblank ' ' hspace)
  have hlast : quoted.getLast? = some '"' :=
    List.getLast?_concat (l := '"' :: label.2.toList)
  have hbracket : (named ++ (" = ".toList ++ quoted)).getLast? ≠ some ')' := by
    rw [List.getLast?_append, List.getLast?_append, hlast]
    exact fun h => absurd (Option.some.inj h) (by decide)
  have hbare : dropEnd ')' ((Text.trim (clause label)).dropWhile (· = '(')) =
      named ++ (" = ".toList ++ quoted) := by
    rw [clause_eq h, Text.trim_between _ rfl rfl, dropWhile_self]
    exact dropEnd_concat hbracket
  have hcut : Text.splitOnce? " = ".toList (named ++ (" = ".toList ++ quoted)) =
      some (named, quoted) :=
    Text.splitOnce?_append (by decide) (avoids_of_notMem ['=', ' '] hspace) quoted
  have hkey : dropLeads "labels.".toList named.length named = label.1.toList :=
    dropLeads_key h.key_point _
  have htrim : Text.trim quoted = quoted := Text.trim_between _ rfl rfl
  have hvalue : dropEnd '"' (quoted.dropWhile (· = '"')) = label.2.toList :=
    unquoted h.value_quote
  unfold readClause?
  simp only [hbare, hcut, Option.bind_eq_bind, Option.bind_some,
    Text.trim_eq_self_of_not_blank hblank, htrim, hkey, hvalue, String.ofList_toList]
  rfl

end Clause

/-- **What a filter accepts**: the labels that have every pair. -/
theorem accepts_ofLabels_iff {labels : Labels} (h : ∀ label ∈ labels, Separable label)
    (stored : Labels) : accepts (ofLabels labels) stored = true ↔ stored.Carries labels := by
  by_cases hne : labels = []
  · subst hne
    exact iff_of_true rfl fun label hlabel => absurd hlabel List.not_mem_nil
  · rw [ofLabels_eq_some hne, joined_eq_intercalate, accepts]
    simp only [String.toList_ofList]
    rw [Text.all_pieces_intercalate (by decide) hne
      fun label hlabel => avoids_clause (h label hlabel)]
    refine forall₂_congr fun label hlabel => ?_
    rw [readClause?_clause (h label hlabel)]
    exact beq_iff_eq

end Filter

/-! ## Selectors -/

namespace Selector

open Text (avoids_of_notMem)

/-- A label that a selector keeps apart: there are neither blanks nor commas in it, and its key has
no equals sign. -/
structure Separable (label : String × String) : Prop where
  key_blank : ∀ c ∈ label.1.toList, Text.isBlank c = false
  key_comma : ',' ∉ label.1.toList
  key_equals : '=' ∉ label.1.toList
  value_blank : ∀ c ∈ label.2.toList, Text.isBlank c = false
  value_comma : ',' ∉ label.2.toList

/-- The term for one label. -/
def term (label : String × String) : List Char :=
  label.1.toList ++ (['='] ++ label.2.toList)

/-- **A selector** has the terms of all labels, with commas between them. -/
theorem ofLabels_eq_some {labels : Labels} (h : labels ≠ []) :
    ∃ text, ofLabels labels = some text ∧ text.toList = [','].intercalate (labels.map term) := by
  obtain ⟨first, others, rfl⟩ := List.exists_cons_of_ne_nil h
  refine ⟨_, rfl, ?_⟩
  rw [String.toList_intercalate, List.map_map]
  refine congrArg _ (List.map_congr_left fun label _ => ?_)
  simp [term]

/-- No comma is inside a term. -/
theorem avoids_term {label : String × String} (h : Separable label) :
    Text.Avoids [','] (term label) :=
  (avoids_of_notMem [] h.key_comma).append
    ((avoids_of_notMem [] (by decide)).append (avoids_of_notMem [] h.value_comma))

/-- **What a selector accepts**: the labels that have every pair. -/
theorem accepts_ofLabels_iff {labels : Labels} (h : ∀ label ∈ labels, Separable label)
    (stored : Labels) : accepts (ofLabels labels) stored = true ↔ stored.Carries labels := by
  by_cases hne : labels = []
  · subst hne
    exact iff_of_true rfl fun label hlabel => absurd hlabel List.not_mem_nil
  · obtain ⟨text, htext, hlist⟩ := ofLabels_eq_some hne
    rw [htext, accepts]
    simp only [hlist]
    rw [Text.all_pieces_intercalate (by decide) hne
      fun label hlabel => avoids_term (h label hlabel)]
    refine forall₂_congr fun label hlabel => ?_
    have hlabel := h label hlabel
    rw [term, Text.splitOnce?_append (by decide) (avoids_of_notMem [] hlabel.key_equals)]
    simp only [Text.trim_eq_self_of_not_blank hlabel.key_blank,
      Text.trim_eq_self_of_not_blank hlabel.value_blank, String.ofList_toList, beq_iff_eq]

end Selector

/-! ## What is listed -/

/-- **What is listed for a selection**: the carriers of its labels in a zone, and those of a kind in
a namespace. -/
theorem Memory.list_carriers (labels : Labels) :
    ((∀ label ∈ labels, Filter.Separable label) → ∀ (t : Instances) (zone : String),
      t.failingZones.contains zone = false →
      t.list zone (Filter.ofLabels labels) =
        .ok ((t.entries.filter fun e => e.1 = zone ∧
          Labels.Carries e.2.labels labels).map Prod.snd)) ∧
    ((∀ label ∈ labels, Selector.Separable label) → ∀ (t : Workloads) (kind : WorkloadKind)
      (namespaceName : String), t.failingList.contains namespaceName = false →
      t.list kind namespaceName (Selector.ofLabels labels) =
        .ok ((t.entries.filter fun e => e.1.kind = kind ∧ e.1.namespaceName = namespaceName ∧
          Labels.Carries e.2 labels).map Prod.fst)) := by
  constructor
  · intro h t zone hzone
    rw [Instances.list, if_neg (by rw [hzone]; exact Bool.false_ne_true)]
    refine congrArg Except.ok (congrArg (List.map Prod.snd) (List.filter_congr fun e _ => ?_))
    rw [Bool.eq_iff_iff, Bool.and_eq_true, decide_eq_true_iff, beq_iff_eq,
      Filter.accepts_ofLabels_iff h]
  · intro h t kind namespaceName hnamespace
    rw [Workloads.list, if_neg (by rw [hnamespace]; exact Bool.false_ne_true)]
    refine congrArg Except.ok (congrArg (List.map Prod.fst) (List.filter_congr fun e _ => ?_))
    rw [Bool.eq_iff_iff, Bool.and_eq_true, Bool.and_eq_true, decide_eq_true_iff, beq_iff_eq,
      beq_iff_eq, Selector.accepts_ofLabels_iff h, and_assoc]

/-! ## Labels over the usual characters -/

/-- Lower-case letters, digits, `-` and `_`. -/
def Filter.alphabet : List Char :=
  "abcdefghijklmnopqrstuvwxyz0123456789-_".toList

/-- Letters, digits, `-`, `_`, `.` and `/`. -/
def Selector.alphabet : List Char :=
  "ABCDEFGHIJKLMNOPQRSTUVWXYZabcdefghijklmnopqrstuvwxyz0123456789-_./".toList

theorem Filter.separable_of_alphabet {label : String × String}
    (hkey : label.1.toList ⊆ alphabet) (hvalue : label.2.toList ⊆ alphabet) : Separable label := by
  have hblank : ∀ c ∈ alphabet, Text.isBlank c = false := Text.not_blank_of_all (by decide +kernel)
  refine ⟨fun c hc => hblank c (hkey hc), fun hc => ?_, fun hc => ?_, fun hc => ?_⟩
  · exact absurd (hkey hc) (by decide +kernel)
  · exact absurd (hvalue hc) (by decide +kernel)
  · exact absurd (hvalue hc) (by decide +kernel)

theorem Selector.separable_of_alphabet {label : String × String}
    (hkey : label.1.toList ⊆ alphabet) (hvalue : label.2.toList ⊆ alphabet) : Separable label := by
  have hblank : ∀ c ∈ alphabet, Text.isBlank c = false := Text.not_blank_of_all (by decide +kernel)
  refine ⟨fun c hc => hblank c (hkey hc), fun hc => ?_, fun hc => ?_,
    fun c hc => hblank c (hvalue hc), fun hc => ?_⟩
  · exact absurd (hkey hc) (by decide +kernel)
  · exact absurd (hkey hc) (by decide +kernel)
  · exact absurd (hvalue hc) (by decide +kernel)

namespace Memory

/-- Three instances, of which one has another owner and one no owner at all. -/
def fleet : Instances :=
  ((Instances.empty.add "eu-1" "web_1" .running [("env", "dev"), ("owner", ""), ("tier", "9")]).add
    "eu-1" "web_2" .running [("env", "dev"), ("owner", "ops")]).add
    "eu-1" "web_3" .running [("env", "dev")]

/-- Two workloads, of which one is of another version. -/
def rollout : Workloads :=
  (Workloads.empty.add .deployment "default" "api" 2
    [("app.kubernetes.io/name", "api"), ("tier", ""), ("version", "v1.2")]).add
    .deployment "default" "old" 1
    [("app.kubernetes.io/name", "api"), ("tier", ""), ("version", "v1.1")]

/-- An empty value is asked for as such, and so is a value with points in it. -/
theorem list_fleet_and_rollout :
    ((fleet.list "eu-1" (Filter.ofLabels [("env", "dev"), ("owner", "")])).map fun found =>
      found.map Instance.name) = .ok ["web_1"] ∧
    ((rollout.list .deployment "default" (Selector.ofLabels [("app.kubernetes.io/name", "api"),
      ("tier", ""), ("version", "v1.2")])).map fun found => found.map Workload.name) =
        .ok ["api"] := by
  constructor
  · rw [(list_carriers _).1 ?_ fleet "eu-1" (by decide)]
    · decide +kernel
    · intro label hlabel
      refine Filter.separable_of_alphabet ?_ ?_ <;> revert label <;> decide +kernel
  · rw [(list_carriers _).2 ?_ rollout .deployment "default" (by decide)]
    · decide +kernel
    · intro label hlabel
      refine Selector.separable_of_alphabet ?_ ?_ <;> revert label <;> decide +kernel

end Memory

end PeriodScaler
