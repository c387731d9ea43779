import PeriodScaler.Proofs.Compute.Clauses
import PeriodScaler.Proofs.Text.Pieces

/-!
# Values inside quotes

A filter is read by whoever it is sent to. There a literal ends at the first quote that no backslash
makes literal, and a backslash makes the character after it literal, whichever it is. A filter is
understood when one clause is read for each label, in order, with the value of the label.

A value is put inside quotes with a backslash in front of each of its quotes, and with its own
backslashes as they are. So a value without backslashes is understood, whatever else it has in it.
A backslash is not: it makes the next character literal and is gone, it frees the quote that it
stands before, and at the end of a value it takes the closing quote along.

* **`literal?_escaped`**, **`literal?_escaped_ne`**: a value without backslashes, and one with some.
* **`clause?_clause_iff`**: which clauses are read as the label that they were made of.
* **`understood_iff_no_backslash`**: which filters are understood, exactly.
-/

namespace PeriodScaler.Filter

open Text (avoids_of_notMem)

/-! ## The reading of a filter -/

namespace Quoted

/-- A character in front of what was read of a value. -/
def onto (c : Char) (r : List Char × List Char) : List Char × List Char :=
  (c :: r.1, r.2)

/-- The value of a literal, read from behind its first quote, and what comes after its last one. -/
def literal? : List Char → Option (List Char × List Char)
  | [] => none
  | '"' :: rest => some ([], rest)
  | '\\' :: [] => none
  | '\\' :: c :: rest => (literal? rest).map (onto c)
  | c :: rest => (literal? rest).map (onto c)

/-- The label of the clause with which a text begins, and what comes after it. -/
def clause? (cs : List Char) : Option ((String × String) × List Char) := do
  let named ← Text.dropLead? "(labels.".toList cs
  let (key, quoted) ← Text.splitOnce? " = \"".toList named
  let (value, closed) ← literal? quoted
  let after ← Text.dropLead? [')'] closed
  return ((String.ofList key, String.ofList value), after)

/-- The labels of the clauses of a text, of which there are no more than `most`. -/
def clauses? (most : Nat) (cs : List Char) : Option Labels :=
  match most with
  | 0 => none
  | most + 1 => do
    let (label, after) ← clause? cs
    if after.isEmpty then return [label]
    else
      let next ← Text.dropLead? " AND ".toList after
      return label :: (← clauses? most next)

/-- The labels that a filter asks for. A clause is not empty. -/
def read? (filter : Option String) : Option Labels :=
  match filter with
  | none => some []
  | some text => clauses? text.length text.toList

end Quoted

open Quoted

/-! ## Literals -/

section Literals

variable {c d : Char} {value after rest : List Char}

theorem literal?_escape (c : Char) (rest : List Char) :
    literal? ('\\' :: c :: rest) = (literal? rest).map (onto c) := rfl

theorem literal?_cons (hquote : c ≠ '"') (hslash : c ≠ '\\') (rest : List Char) :
    literal? (c :: rest) = (literal? rest).map (onto c) := by
  rw [literal?]
  · exact hquote
  · exact fun h _ => hslash h
  · exact fun _ _ h _ => hslash h

/-- What is read behind a character is all that is read but this character. -/
theorem eq_some_of_map_onto {o : Option (List Char × List Char)}
    (h : o.map (onto c) = some (d :: value, rest)) : c = d ∧ o = some (value, rest) := by
  obtain ⟨⟨v, r⟩, ho, heq⟩ := Option.map_eq_some_iff.mp h
  obtain ⟨hvalue, rfl⟩ := Prod.mk.inj heq
  obtain ⟨rfl, rfl⟩ := List.cons.inj hvalue
  exact ⟨rfl, ho⟩

/-- **A value without backslashes** is read back. -/
theorem literal?_escaped (h : '\\' ∉ value) (after : List Char) :
    literal? (escaped value ++ '"' :: after) = some (value, after) := by
  induction value with
  | nil => rfl
  | cons c value ih =>
    obtain ⟨hslash, hvalue⟩ := List.ne_and_not_mem_of_not_mem_cons h
    have hrest := ih hvalue
    by_cases hquote : c = '"'
    · subst hquote
      rw [escaped_quote, List.cons_append, List.cons_append, literal?_escape, hrest]
      rfl
    · rw [escaped_cons hquote, List.cons_append, literal?_cons hquote (Ne.symm hslash), hrest]
      rfl

theorem replicate_append_cons (n : Nat) (c : Char) (value : List Char) :
    List.replicate n c ++ c :: value = List.replicate (n + 1) c ++ value := by
  rw [List.replicate_succ', List.append_assoc, List.singleton_append]

/-- What is not read back: a value with a backslash in it or with some missing in front, and any
value behind a backslash that is still to make a character literal. -/
structure Lost (value : List Char) : Prop where
  behind : ∀ n after rest, 0 < n ∨ '\\' ∈ value →
    literal? (escaped value ++ '"' :: after) ≠ some (List.replicate n '\\' ++ value, rest)
  pending : ∀ n after rest, literal? ('\\' :: (escaped value ++ '"' :: after)) ≠
    some (List.replicate (n + 1) '\\' ++ value, rest)

namespace Lost

theorem nil : Lost [] where
  behind n after rest h heq := by
    cases n with
    | zero => simp at h
    | succ n => cases (Prod.mk.inj (Option.some.inj heq)).1
  pending n after rest heq := absurd (eq_some_of_map_onto heq).1 (by decide)

/-- A quote is read as it is, or ends the value when another backslash has freed it. -/
theorem quote (h : Lost value) : Lost ('"' :: value) where
  behind n after rest hslash heq := by
    cases n with
    | zero =>
      have hmem : '\\' ∈ value := by simpa using hslash
      exact h.behind 0 after rest (Or.inr hmem) (eq_some_of_map_onto heq).2
    | succ n => exact absurd (eq_some_of_map_onto heq).1 (by decide)
  pending n after rest heq := by
    -- The backslash before the quote is taken for a character, and the quote ends the value.
    have hend := (eq_some_of_map_onto heq).2
    have hnil := (Prod.mk.inj (Option.some.inj hend)).1
    exact absurd hnil.symm (List.append_ne_nil_of_right_ne_nil _ (List.cons_ne_nil _ _))

/-- Of two backslashes one is read, so that one more is missing. -/
theorem slash (h : Lost value) : Lost ('\\' :: value) where
  behind n after rest _ heq := by
    rw [replicate_append_cons] at heq
    exact h.pending n after rest heq
  pending n after rest heq := by
    refine h.behind (n + 1) after rest (Or.inl (Nat.succ_pos n)) ?_
    rw [← replicate_append_cons]
    exact (eq_some_of_map_onto heq).2

/-- Any other character is read as it is, where a backslash should be when one is missing. -/
theorem other (hquote : c ≠ '"') (hslash : c ≠ '\\') (h : Lost value) : Lost (c :: value) where
  behind n after rest hmissing heq := by
    rw [escaped_cons hquote, List.cons_append, literal?_cons hquote hslash] at heq
    cases n with
    | zero =>
      have hmem : '\\' ∈ value := by simpa [Ne.symm hslash] using hmissing
      exact h.behind 0 after rest (Or.inr hmem) (eq_some_of_map_onto heq).2
    | succ n => exact hslash (eq_some_of_map_onto heq).1
  pending n after rest heq := by
    rw [escaped_cons hquote] at heq
    exact hslash (eq_some_of_map_onto heq).1

end Lost

/-- By induction on the value; what a backslash does is seen at the next character. -/
theorem lost (value : List Char) : Lost value := by
  induction value with
  | nil => exact .nil
  | cons c value ih =>
    by_cases hquote : c = '"'
    · exact hquote ▸ ih.quote
    · by_cases hslash : c = '\\'
      · exact hslash ▸ ih.slash
      · exact ih.other hquote hslash

/-- **A value with a backslash** is not read back. -/
theorem literal?_escaped_ne (h : '\\' ∈ value) (after rest : List Char) :
    literal? (escaped value ++ '"' :: after) ≠ some (value, rest) :=
  (lost value).behind 0 after rest (Or.inr h)

end Literals

/-! ## Clauses -/

section Clauses

variable {label : String × String} {labels : Labels}

/-- A clause is read up to its literal, when its key has no spaces. -/
theorem clause?_append (hkey : ' ' ∉ label.1.toList) (rest : List Char) :
    clause? (clause label ++ rest) =
      (literal? (escaped label.2.toList ++ '"' :: ')' :: rest)).bind fun read =>
        (Text.dropLead? [')'] read.2).map fun after =>
          ((label.1, String.ofList read.1), after) := by
  have hsep : " = \"".toList = [' ', '=', ' ', '"'] := by decide
  have hcut := Text.splitOnce?_append (List.cons_ne_nil ' ' ['=', ' ', '"'])
    (avoids_of_notMem ['=', ' ', '"'] hkey) (escaped label.2.toList ++ '"' :: ')' :: rest)
  unfold clause?
  rw [clause_append, Text.dropLead?_append, hsep]
  simp only [Option.bind_eq_bind, Option.bind_some, hcut, String.ofList_toList]
  refine congrArg (Option.bind _) (funext fun read => ?_)
  cases Text.dropLead? [')'] read.2 <;> rfl

/-- **A clause is read as its label** exactly when the value has no backslashes. -/
theorem clause?_clause_iff (hkey : ' ' ∉ label.1.toList) {rest after : List Char} :
    clause? (clause label ++ rest) = some (label, after) ↔
      '\\' ∉ label.2.toList ∧ after = rest := by
  rw [clause?_append hkey]
  by_cases hslash : '\\' ∈ label.2.toList
  · refine iff_of_false (fun h => ?_) fun h => h.1 hslash
    obtain ⟨⟨value, closed⟩, hvalue, hend⟩ := Option.bind_eq_some_iff.mp h
    obtain ⟨after', -, hlabel⟩ := Option.map_eq_some_iff.mp hend
    have heq : String.ofList value = label.2 := congrArg (fun r => r.1.2) hlabel
    have hread : value = label.2.toList := by rw [← heq, String.toList_ofList]
    rw [hread] at hvalue
    exact literal?_escaped_ne hslash _ _ hvalue
  · have hclosed : Text.dropLead? [')'] (')' :: rest) = some rest :=
      Text.dropLead?_append [')'] rest
    rw [literal?_escaped hslash, Option.bind_some, hclosed, Option.map_some, String.ofList_toList,
      Option.some.injEq, Prod.mk.injEq]
    exact ⟨fun h => ⟨hslash, h.2.symm⟩, fun h => ⟨rfl, h.2.symm⟩⟩

theorem clauses?_last {cs : List Char} (h : clause? cs = some (label, [])) (most : Nat) :
    clauses? (most + 1) cs = some [label] := by
  simp [clauses?, h]

theorem clauses?_next {cs after next : List Char} (h : clause? cs = some (label, after))
    (hne : after ≠ []) (hnext : Text.dropLead? " AND ".toList after = some next) (most : Nat) :
    clauses? (most + 1) cs = (clauses? most next).map (label :: ·) := by
  have hmore : after.isEmpty = false := by simpa using hne
  simp only [clauses?, h, Option.bind_eq_bind, Option.bind_some, hmore, Bool.false_eq_true,
    if_false, hnext]
  cases clauses? most next <;> rfl

/-- The first label that is read is that of the first clause. -/
theorem clause?_of_clauses? {most : Nat} {cs : List Char}
    (h : clauses? most cs = some (label :: labels)) :
    ∃ after, clause? cs = some (label, after) := by
  cases most with
  | zero => cases h
  | succ most =>
    obtain ⟨⟨found, after⟩, hfound, hrest⟩ := Option.bind_eq_some_iff.mp h
    dsimp only at hrest
    split at hrest
    · obtain ⟨rfl, -⟩ := List.cons.inj (Option.some.inj hrest)
      exact ⟨after, hfound⟩
    · obtain ⟨next, -, hnext⟩ := Option.bind_eq_some_iff.mp hrest
      obtain ⟨others, -, hothers⟩ := Option.bind_eq_some_iff.mp hnext
      obtain ⟨rfl, -⟩ := List.cons.inj (Option.some.inj hothers)
      exact ⟨after, hfound⟩

/-- What is joined behind the first of some parts. -/
theorem exists_joined_cons (sep part : List Char) (others : List (List Char)) :
    ∃ rest, joined sep (part :: others) = part ++ rest ∧
      (others = [] ∧ rest = [] ∨ others ≠ [] ∧ rest = sep ++ joined sep others) := by
  cases others with
  | nil => exact ⟨[], (List.append_nil part).symm, Or.inl ⟨rfl, rfl⟩⟩
  | cons other others =>
    exact ⟨_, List.append_assoc part sep _, Or.inr ⟨List.cons_ne_nil other others, rfl⟩⟩

/-- Each clause takes up some of the text. -/
theorem length_le_joined (sep : List Char) (labels : Labels) :
    labels.length ≤ (joined sep (labels.map clause)).length := by
  induction labels with
  | nil => exact Nat.le_refl 0
  | cons label others ih =>
    have hclause : 0 < (clause label).length := Nat.succ_pos _
    obtain ⟨rest, htext, hrest⟩ := exists_joined_cons sep (clause label) (others.map clause)
    rw [List.map_cons, htext, List.length_append, List.length_cons]
    rcases hrest with ⟨hnone, -⟩ | ⟨-, rfl⟩
    · rw [List.map_eq_nil_iff.mp hnone, List.length_nil]
      omega
    · rw [List.length_append]
      omega

/-- **The clauses of some labels are read** exactly when no value has a backslash. By induction on
the labels: the first one is read as it is exactly when it has none, and then the others are to be
read. -/
theorem clauses?_joined_iff (hne : labels ≠ []) (hkeys : ∀ label ∈ labels, ' ' ∉ label.1.toList)
    {most : Nat} (hmost : labels.length ≤ most) :
    clauses? most (joined " AND ".toList (labels.map clause)) = some labels ↔
      ∀ label ∈ labels, '\\' ∉ label.2.toList := by
  induction labels generalizing most with
  | nil => exact absurd rfl hne
  | cons label others ih =>
    obtain ⟨hkey, hothers⟩ := List.forall_mem_cons.mp hkeys
    obtain ⟨most, rfl⟩ := Nat.exists_eq_add_of_le' (Nat.one_le_of_lt hmost)
    obtain ⟨rest, htext, hrest⟩ :=
      exists_joined_cons " AND ".toList (clause label) (others.map clause)
    rw [List.forall_mem_cons, List.map_cons, htext]
    by_cases hslash : '\\' ∈ label.2.toList
    · refine iff_of_false (fun h => ?_) fun h => h.1 hslash
      obtain ⟨after, hafter⟩ := clause?_of_clauses? h
      exact ((clause?_clause_iff hkey).mp hafter).1 hslash
    · have hread : clause? (clause label ++ rest) = some (label, rest) :=
        (clause?_clause_iff hkey).mpr ⟨hslash, rfl⟩
      rw [and_iff_right hslash]
      rcases hrest with ⟨hnone, rfl⟩ | ⟨hsome, rfl⟩
      · obtain rfl := List.map_eq_nil_iff.mp hnone
        rw [clauses?_last hread]
        exact iff_of_true rfl fun other hother => absurd hother List.not_mem_nil
      · have hne : others ≠ [] := fun h => hsome (h ▸ rfl)
        have hmore : " AND ".toList ++ joined " AND ".toList (others.map clause) ≠ [] :=
          List.append_ne_nil_of_left_ne_nil (by decide) _
        rw [clauses?_next hread hmore (Text.dropLead?_append _ _),
          ← ih hne hothers (Nat.le_of_succ_le_succ hmost)]
        cases clauses? most (joined " AND ".toList (others.map clause)) <;> simp

/-- **Which filters are understood**: those for labels without backslashes in their values. -/
theorem understood_iff_no_backslash (labels : Labels)
    (hkeys : ∀ label ∈ labels, ' ' ∉ label.1.toList) :
    read? (ofLabels labels) = some labels ↔ ∀ label ∈ labels, '\\' ∉ label.2.toList := by
  by_cases hne : labels = []
  · subst hne
    exact iff_of_true rfl fun label hlabel => absurd hlabel List.not_mem_nil
  · rw [ofLabels_eq_some hne, read?]
    simp only [String.length_ofList, String.toList_ofList]
    exact clauses?_joined_iff hne hkeys (length_le_joined _ labels)

end Clauses

/-! ## Values with quotes and with a backslash -/

/-- Labels whose values have quotes, look like a clause, or are empty. -/
def quotedLabels : Labels :=
  [("env", "a\"b"), ("owner", ""), ("team", "é\") AND (labels.env = \"b")]

/-- They are read back. -/
theorem quotedLabels_understood : read? (ofLabels quotedLabels) = some quotedLabels :=
  (understood_iff_no_backslash quotedLabels (by decide +kernel)).mpr (by decide +kernel)

/-- A backslash in front of a quote frees it: no bracket comes after, and nothing is read. -/
theorem freed_quote_unread : read? (ofLabels [("env", "a\\\"b")]) = none := by
  decide +kernel

end PeriodScaler.Filter
