import Mathlib.Data.List.Basic
import PeriodScaler.Text.Blank

/-!
# Texts put together and taken apart

A text that was put together with a separator is taken apart again, as long as no occurrence of the
separator starts inside a part (`Avoids`). A part may share characters with the separator, but an
occurrence may not even start in one part and end in what follows. What surrounds a text is taken
off up to the first character that stays.

* **`pieces_intercalate`**, **`all_pieces_intercalate`**: the pieces of parts with separators
  between them are the parts.
* **`splitOnce?_append`**: the first separator is where the part in front of it ends.
-/

namespace PeriodScaler.Text

variable {sep part : List Char}

/-- No occurrence of a separator starts inside a part, whatever comes after it. -/
def Avoids (sep : List Char) : List Char → Prop
  | [] => True
  | c :: part => (∀ after, ¬ sep <+: c :: (part ++ after)) ∧ Avoids sep part

theorem Avoids.append {others : List Char} (h : Avoids sep part) (h' : Avoids sep others) :
    Avoids sep (part ++ others) := by
  induction part with
  | nil => exact h'
  | cons c part ih =>
    refine ⟨fun after => ?_, ih h.2⟩
    have hafter := h.1 (others ++ after)
    rwa [← List.append_assoc] at hafter

/-- A part without the first character of the separator avoids it. -/
theorem avoids_of_notMem {s : Char} (tail : List Char) (h : s ∉ part) :
    Avoids (s :: tail) part := by
  induction part with
  | nil => trivial
  | cons c part ih =>
    obtain ⟨hc, hpart⟩ := List.ne_and_not_mem_of_not_mem_cons h
    exact ⟨fun after hafter => hc (List.cons_prefix_cons.mp hafter).1, ih hpart⟩

theorem isPrefixOf_append_self (sep cs : List Char) : sep.isPrefixOf (sep ++ cs) = true :=
  List.isPrefixOf_iff_prefix.mpr (List.prefix_append sep cs)

theorem isPrefixOf_eq_false {cs : List Char} (h : ¬ sep <+: cs) : sep.isPrefixOf cs = false := by
  rwa [← Bool.not_eq_true, List.isPrefixOf_iff_prefix]

/-! ## Pieces -/

/-- A character at which the separator does not occur is in front of the first piece. -/
theorem piecesAfter_cons {c : Char} {cs piece : List Char} {rest : List (List Char)}
    (h : ¬ sep <+: c :: cs) (hcs : piecesAfter sep 0 cs = piece :: rest) :
    piecesAfter sep 0 (c :: cs) = (c :: piece) :: rest := by
  rw [piecesAfter, isPrefixOf_eq_false h, Bool.and_false, if_neg Bool.false_ne_true, hcs]

/-- A part that avoids the separator is in front of the first piece of what follows. -/
theorem piecesAfter_append (h : Avoids sep part) {cs piece : List Char} {rest : List (List Char)}
    (hcs : piecesAfter sep 0 cs = piece :: rest) :
    piecesAfter sep 0 (part ++ cs) = (part ++ piece) :: rest := by
  induction part with
  | nil => exact hcs
  | cons c part ih => exact piecesAfter_cons (h.1 cs) (ih h.2)

/-- The rest of an occurrence is passed over. -/
theorem piecesAfter_length (passed cs : List Char) :
    piecesAfter sep passed.length (passed ++ cs) = piecesAfter sep 0 cs := by
  induction passed with
  | nil => rfl
  | cons c passed ih => rw [List.length_cons, List.cons_append, piecesAfter, ih]

theorem piecesAfter_sep (hsep : sep ≠ []) (cs : List Char) :
    piecesAfter sep 0 (sep ++ cs) = [] :: piecesAfter sep 0 cs := by
  have hprefix := isPrefixOf_append_self sep cs
  obtain ⟨s, tail, rfl⟩ := List.exists_cons_of_ne_nil hsep
  have hfound : (!(s :: tail).isEmpty && (s :: tail).isPrefixOf (s :: tail ++ cs)) = true := hprefix
  rw [List.cons_append] at hfound ⊢
  rw [piecesAfter, if_pos hfound, List.length_cons, Nat.add_sub_cancel, piecesAfter_length tail cs]

/-- **The pieces of parts with separators between them** are the parts. -/
theorem pieces_intercalate {parts : List (List Char)} (hsep : sep ≠ []) (hparts : parts ≠ [])
    (h : ∀ part ∈ parts, Avoids sep part) : pieces sep (sep.intercalate parts) = parts := by
  unfold pieces
  induction parts with
  | nil => exact absurd rfl hparts
  | cons part others ih =>
    obtain ⟨hpart, hothers⟩ := List.forall_mem_cons.mp h
    cases others with
    | nil =>
      have hlast : piecesAfter sep 0 (part ++ []) = [part ++ []] := piecesAfter_append hpart rfl
      rw [List.append_nil] at hlast
      rwa [List.intercalate_singleton]
    | cons other others =>
      have hnext : piecesAfter sep 0 (sep ++ sep.intercalate (other :: others)) =
          [] :: other :: others := by
        rw [piecesAfter_sep hsep, ih (List.cons_ne_nil other others) hothers]
      rw [List.intercalate_cons_cons, List.append_assoc, piecesAfter_append hpart hnext,
        List.append_nil]

/-- What is asked of all pieces is asked of all parts. -/
theorem all_pieces_intercalate {α : Type} {items : List α} {part : α → List Char} (hsep : sep ≠ [])
    (hitems : items ≠ []) (h : ∀ a ∈ items, Avoids sep (part a)) (ask : List Char → Bool) :
    (pieces sep (sep.intercalate (items.map part))).all ask = true ↔
      ∀ a ∈ items, ask (part a) = true := by
  have hparts : items.map part ≠ [] := fun hnone => hitems (List.map_eq_nil_iff.mp hnone)
  rw [pieces_intercalate hsep hparts (List.forall_mem_map.mpr h), List.all_eq_true,
    List.forall_mem_map]

/-- **The first separator** is where a part ends that avoids it. -/
theorem splitOnce?_append (hsep : sep ≠ []) (h : Avoids sep part) (after : List Char) :
    splitOnce? sep (part ++ (sep ++ after)) = some (part, after) := by
  induction part with
  | nil =>
    have hprefix := isPrefixOf_append_self sep after
    obtain ⟨s, tail, rfl⟩ := List.exists_cons_of_ne_nil hsep
    rw [List.nil_append, List.cons_append, splitOnce?, ← List.cons_append, if_pos hprefix,
      List.drop_left]
  | cons c part ih =>
    rw [List.cons_append, splitOnce?, isPrefixOf_eq_false (h.1 _), if_neg Bool.false_ne_true,
      ih h.2]
    rfl

/-! ## Ends -/

theorem not_blank_of_all {cs : List Char} (h : (cs.all fun c => !isBlank c) = true) :
    ∀ c ∈ cs, isBlank c = false := by
  intro c hc
  simpa using List.all_eq_true.mp h c hc

/-- A text between two characters that are not blank is its own trim. -/
theorem trim_between {c d : Char} (cs : List Char) (hc : isBlank c = false)
    (hd : isBlank d = false) : trim (c :: (cs ++ [d])) = c :: (cs ++ [d]) := by
  have hreverse : (c :: (cs ++ [d])).reverse = d :: (c :: cs).reverse := by
    rw [← List.cons_append, List.reverse_append]
    rfl
  have hend : (d :: (c :: cs).reverse).dropWhile isBlank = d :: (c :: cs).reverse :=
    trimStart_cons _ hd
  rw [trim, trimStart_cons _ hc, trimEnd, hreverse, hend, ← hreverse, List.reverse_reverse]

/-- The lead of a text is dropped. -/
theorem dropLead?_append (lead cs : List Char) : dropLead? lead (lead ++ cs) = some cs := by
  rw [dropLead?, if_pos (isPrefixOf_append_self lead cs), List.drop_left]

/-- A text without the last character of a lead does not start with it. -/
theorem dropLead?_of_notMem (lead : List Char) {cs : List Char} {c : Char} (h : c ∉ cs) :
    dropLead? (lead ++ [c]) cs = none := by
  refine if_neg fun hprefix => h ?_
  have hsub := (List.isPrefixOf_iff_prefix.mp hprefix).subset
  exact hsub (List.mem_append_right lead (List.mem_singleton.mpr rfl))

end PeriodScaler.Text
