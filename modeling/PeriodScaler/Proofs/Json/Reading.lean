import PeriodScaler.Json.Reader
import PeriodScaler.Json.Writer
import Mathlib.Tactic.Common

/-!
# Compact text is read back

The writer escapes a text, the reader takes the escapes apart again, and both agree on where a value
ends. A value without numbers is `Plain`; every such value, whatever its texts, its nesting and the
names of its fields, is what its compact text denotes.

* **`readQuoted?_escape`**: a quoted text is read back, each character through its own escape.
* **`readValue?_writeOnto`**: a plain value is read back in front of anything, and the reading stops
  where the value ended. The bound for the nesting may be the number of written characters.
* **`read?_compact`**: the compact text of a plain value denotes the value, so no two plain values
  share a text (`compact_injective`).
-/

namespace PeriodScaler.Json

/-! ## Quoted texts -/

/-- The pieces that stand for a character: the character, or its code unit when it is a control
character. -/
inductive Piece.StandsFor : Piece → Char → Prop
  | char (c : Char) : StandsFor (.char c) c
  | unit {c : Char} (hcontrol : c.toNat < 32) : StandsFor (.unit c.toNat) c

theorem charsOf?_unit {n : Nat} (hn : n < 0xD800) (rest : List Piece) :
    charsOf? (.unit n :: rest) = (charsOf? rest).map (Char.ofNat n :: ·) := by
  have hhigh : ¬ (0xD800 ≤ n ∧ n < 0xDC00) := by omega
  have hlow : ¬ (0xDC00 ≤ n ∧ n < 0xE000) := by omega
  have hany : ¬ (0xD800 ≤ n ∧ n < 0xE000) := by omega
  cases rest with
  | nil => simp only [charsOf?, if_neg hany]
  | cons piece rest =>
    cases piece with
    | char c => simp only [charsOf?, if_neg hany]
    | unit low => rw [charsOf?, if_neg hhigh, if_neg hlow]

/-- Pieces that stand for some characters denote them. -/
theorem charsOf?_of_standsFor {pieces : List Piece} {cs : List Char}
    (h : List.Forall₂ Piece.StandsFor pieces cs) : charsOf? pieces = some cs := by
  induction h with
  | nil => rw [charsOf?]
  | @cons piece c pieces cs hpiece _ ih =>
    cases hpiece with
    | char => rw [charsOf?, ih, Option.map_some]
    | unit hcontrol =>
      rw [charsOf?_unit (by omega), ih, Option.map_some, Char.ofNat_toNat]

theorem hexDigit?_hexDigit : ∀ n < 16, Text.hexDigit? (Text.hexDigit n) = some n := by
  decide

/-- The four digits of a control character are read as its code. -/
theorem hex4?_control {c : Char} (hcontrol : c.toNat < 32) :
    hex4? '0' '0' (Text.hexDigit (c.toNat / 16)) (Text.hexDigit (c.toNat % 16)) =
      some c.toNat := by
  have hzero : Text.hexDigit? '0' = some 0 := by decide
  have hfirst := hexDigit?_hexDigit (c.toNat / 16) (by omega)
  have hsecond := hexDigit?_hexDigit (c.toNat % 16) (by omega)
  simp only [hex4?, hzero, hfirst, hsecond, Option.pure_def, Option.bind_eq_bind, Option.bind_some,
    Option.some.injEq]
  omega

/-- The three ways of writing a character: a short escape, the digits of a control character, and
the character itself. -/
theorem escape_cases (c : Char) :
    (∃ e, e ≠ 'u' ∧ shortEscape? e = some c ∧ escape c = ['\\', e]) ∨
    (c.toNat < 32 ∧ escape c =
      ['\\', 'u', '0', '0', Text.hexDigit (c.toNat / 16), Text.hexDigit (c.toNat % 16)]) ∨
    (¬ c.toNat < 32 ∧ c ≠ '"' ∧ c ≠ '\\' ∧ escape c = [c]) := by
  unfold escape
  split_ifs with hquote hslash hback hfeed hline hreturn htab hcontrol
  · exact .inl ⟨'"', by decide, by rw [hquote]; rfl, rfl⟩
  · exact .inl ⟨'\\', by decide, by rw [hslash]; rfl, rfl⟩
  · exact .inl ⟨'b', by decide, by rw [hback]; rfl, rfl⟩
  · exact .inl ⟨'f', by decide, by rw [hfeed]; rfl, rfl⟩
  · exact .inl ⟨'n', by decide, by rw [hline]; rfl, rfl⟩
  · exact .inl ⟨'r', by decide, by rw [hreturn]; rfl, rfl⟩
  · exact .inl ⟨'t', by decide, by rw [htab]; rfl, rfl⟩
  · exact .inr (.inl ⟨hcontrol, rfl⟩)
  · exact .inr (.inr ⟨hcontrol, hquote, hslash, rfl⟩)

/-- Reading the escape of one character gives a piece that stands for it. -/
theorem readPieces?_escape (c : Char) (rest : List Char) :
    ∃ piece, Piece.StandsFor piece c ∧
      readPieces? (escape c ++ rest) =
        (readPieces? rest).map fun found => (piece :: found.1, found.2) := by
  rcases escape_cases c with ⟨e, hletter, hshort, hescape⟩ | ⟨hcontrol, hescape⟩ |
    ⟨hcontrol, hquote, hslash, hescape⟩
  · refine ⟨.char c, .char c, ?_⟩
    rw [hescape, List.cons_append, List.singleton_append, readPieces?, hshort]
    · cases readPieces? rest <;> rfl
    · rintro _ _ _ _ _ rfl
      exact absurd rfl hletter
  · refine ⟨.unit c.toNat, .unit hcontrol, ?_⟩
    rw [hescape]
    simp only [List.cons_append, List.nil_append]
    rw [readPieces?, hex4?_control hcontrol]
    cases readPieces? rest <;> rfl
  · refine ⟨.char c, .char c, ?_⟩
    rw [hescape, List.singleton_append, readPieces?, if_neg (not_or.mpr ⟨hcontrol, hslash⟩)]
    · cases readPieces? rest <;> rfl
    · exact hquote
    all_goals
      intros
      exact absurd ‹c = _› hslash

theorem readPieces?_flatMap_escape (cs rest : List Char) :
    ∃ pieces, List.Forall₂ Piece.StandsFor pieces cs ∧
      readPieces? (cs.flatMap escape ++ '"' :: rest) = some (pieces, rest) := by
  induction cs with
  | nil => exact ⟨[], .nil, by rw [List.flatMap_nil, List.nil_append, readPieces?]⟩
  | cons c cs ih =>
    obtain ⟨pieces, hpieces, hread⟩ := ih
    obtain ⟨piece, hpiece, hstep⟩ := readPieces?_escape c (cs.flatMap escape ++ '"' :: rest)
    refine ⟨piece :: pieces, .cons hpiece hpieces, ?_⟩
    rw [List.flatMap_cons, List.append_assoc, hstep, hread]
    rfl

/-- **A quoted text is read back** from its escapes and the closing quote. -/
theorem readQuoted?_escape (s : String) (after : List Char) :
    readQuoted? (s.toList.flatMap escape ++ '"' :: after) = some (some s, after) := by
  obtain ⟨pieces, hpieces, hread⟩ := readPieces?_flatMap_escape s.toList after
  rw [readQuoted?, hread]
  simp [charsOf?_of_standsFor hpieces]

theorem quote_append (s : String) (after : List Char) :
    quote s ++ after = '"' :: (s.toList.flatMap escape ++ '"' :: after) := by
  simp [quote]

/-! ## Values -/

/-- Made of texts, truth values and `null`: no number, and nothing unreadable. -/
inductive Plain : Json → Prop
  | null : Plain .null
  | bool (b : Bool) : Plain (.bool b)
  | text (s : String) : Plain (.text s)
  | array {items : List Json} (h : ∀ item ∈ items, Plain item) : Plain (.array items)
  | object {fields : List (String × Json)} (h : ∀ field ∈ fields, Plain field.2) :
    Plain (.object fields)

theorem Plain.items {items : List Json} (h : Plain (.array items)) :
    ∀ item ∈ items, Plain item := by
  cases h with
  | array h => exact h

theorem Plain.fields {fields : List (String × Json)} (h : Plain (.object fields)) :
    ∀ field ∈ fields, Plain field.2 := by
  cases h with
  | object h => exact h

/-- What the text of a plain value starts with: no blank, and no closing bracket. -/
theorem Plain.writeOnto_starts {j : Json} (h : Plain j) (after : List Char) :
    ∃ c rest, writeOnto j after = c :: rest ∧ isSpace c = false ∧ c ≠ ']' := by
  cases h with
  | null => exact ⟨_, _, by rw [writeOnto], by decide, by decide⟩
  | bool b => cases b <;> exact ⟨_, _, by rw [writeOnto], by decide, by decide⟩
  | text s => exact ⟨_, _, by rw [writeOnto, quote_append], by decide, by decide⟩
  | @array items _ => cases items <;> exact ⟨_, _, by rw [writeOnto], by decide, by decide⟩
  | @object fields _ => cases fields <;> exact ⟨_, _, by rw [writeOnto], by decide, by decide⟩

theorem skipSpace_cons {c : Char} (h : isSpace c = false) (rest : List Char) :
    skipSpace (c :: rest) = c :: rest := by
  rw [skipSpace, List.dropWhile_cons_of_neg (by simp [h])]

theorem skipSpace_quote (s : String) (after : List Char) :
    skipSpace (quote s ++ after) = '"' :: (s.toList.flatMap escape ++ '"' :: after) := by
  rw [quote_append, skipSpace_cons (by decide)]

mutual

/-- A written value has at least one character. -/
theorem length_lt_writeOnto {j : Json} (h : Plain j) (after : List Char) :
    after.length < (writeOnto j after).length := by
  match j with
  | .null => simp only [writeOnto, List.length_cons]; omega
  | .bool true => simp only [writeOnto, List.length_cons]; omega
  | .bool false => simp only [writeOnto, List.length_cons]; omega
  | .number literal => cases h
  | .text s => simp only [writeOnto, quote, List.length_append, List.length_cons]; omega
  | .array [] => simp only [writeOnto, List.length_cons]; omega
  | .array (item :: items) =>
    have hitem := length_lt_writeOnto (h.items item List.mem_cons_self) (writeItems items after)
    have hitems := length_lt_writeItems (fun j hj => h.items j (List.mem_cons_of_mem _ hj)) after
    simp only [writeOnto, List.length_cons]
    omega
  | .object [] => simp only [writeOnto, List.length_cons]; omega
  | .object ((name, value) :: fields) =>
    have hvalue : Plain value := h.fields (name, value) List.mem_cons_self
    have hlong := length_lt_writeOnto hvalue (writeFields fields after)
    have hfields := length_lt_writeFields (fun f hf => h.fields f (List.mem_cons_of_mem _ hf)) after
    simp only [writeOnto, List.length_cons, List.length_append]
    omega
  | .unreadable => cases h

theorem length_lt_writeItems {items : List Json} (h : ∀ item ∈ items, Plain item)
    (after : List Char) : after.length < (writeItems items after).length := by
  match items with
  | [] => simp only [writeItems, List.length_cons]; omega
  | item :: items =>
    have hitem := length_lt_writeOnto (h item List.mem_cons_self) (writeItems items after)
    have hitems := length_lt_writeItems (fun j hj => h j (List.mem_cons_of_mem _ hj)) after
    simp only [writeItems, List.length_cons]
    omega

theorem length_lt_writeFields {fields : List (String × Json)} (h : ∀ field ∈ fields, Plain field.2)
    (after : List Char) : after.length < (writeFields fields after).length := by
  match fields with
  | [] => simp only [writeFields, List.length_cons]; omega
  | (name, value) :: fields =>
    have hvalue : Plain value := h (name, value) List.mem_cons_self
    have hlong := length_lt_writeOnto hvalue (writeFields fields after)
    have hfields := length_lt_writeFields (fun f hf => h f (List.mem_cons_of_mem _ hf)) after
    simp only [writeFields, List.length_cons, List.length_append]
    omega

end

/-- The object of fields whose names were all read. -/
theorem objectOf_some (fields : List (String × Json)) :
    objectOf (fields.map fun field => (some field.1, field.2)) = .object fields := by
  have hnamed : (fields.map fun field => (some field.1, field.2)).mapM
      (fun field => field.1.map fun n => (n, field.2)) = some fields := by
    induction fields with
    | nil => rfl
    | cons field fields ih => simp [ih]
  simp only [objectOf, hnamed]

mutual

/-- **A plain value is read back** in front of anything. -/
theorem readValue?_writeOnto (bound : Nat) (after : List Char) {j : Json} (h : Plain j)
    (hbound : (writeOnto j after).length ≤ bound + after.length) :
    readValue? bound (writeOnto j after) = some (j, after) := by
  have hlong := length_lt_writeOnto h after
  match bound, j with
  | 0, _ => omega
  | _ + 1, .null => simp [writeOnto, readValue?, skipSpace_cons, isSpace]
  | _ + 1, .bool true => simp [writeOnto, readValue?, skipSpace_cons, isSpace]
  | _ + 1, .bool false => simp [writeOnto, readValue?, skipSpace_cons, isSpace]
  | _ + 1, .number literal => cases h
  | _ + 1, .text s =>
    rw [writeOnto, readValue?, skipSpace_quote]
    simp [readQuoted?_escape]
  | _ + 1, .array [] => simp [writeOnto, readValue?, skipSpace_cons, isSpace]
  | bound + 1, .array (item :: items) =>
    have hread := readItems?_writeItems bound after h.items (by
      simp only [writeOnto, List.length_cons] at hbound
      omega)
    obtain ⟨c, rest, hstart, hspace, hbracket⟩ :=
      (h.items item List.mem_cons_self).writeOnto_starts (writeItems items after)
    rw [hstart] at hread
    rw [writeOnto, readValue?, skipSpace_cons (by decide), hstart]
    simp only [skipSpace_cons hspace, hread]
    split
    · rename_i heq
      exact absurd (List.cons.inj heq).1 hbracket
    · rfl
  | _ + 1, .object [] => simp [writeOnto, readValue?, skipSpace_cons, isSpace]
  | bound + 1, .object ((name, value) :: fields) =>
    have hread := readFields?_writeFields bound after h.fields (by
      simp only [writeOnto, List.length_cons] at hbound
      omega)
    rw [writeOnto, readValue?, skipSpace_cons (by decide)]
    simp only [skipSpace_quote, hread]
    exact congrArg (fun object => some (object, after)) (objectOf_some ((name, value) :: fields))
  | _ + 1, .unreadable => cases h

/-- The items of an array are read back up to its closing bracket. -/
theorem readItems?_writeItems (bound : Nat) (after : List Char) {item : Json} {items : List Json}
    (h : ∀ j ∈ item :: items, Plain j)
    (hbound : (writeOnto item (writeItems items after)).length ≤ bound + after.length) :
    readItems? bound (writeOnto item (writeItems items after)) = some (item :: items, after) := by
  have hitem := h item List.mem_cons_self
  have hrest : ∀ j ∈ items, Plain j := fun j hj => h j (List.mem_cons_of_mem _ hj)
  have hlong := length_lt_writeOnto hitem (writeItems items after)
  have hlonger := length_lt_writeItems hrest after
  match bound, items with
  | 0, _ => omega
  | bound + 1, [] =>
    have hread := readValue?_writeOnto bound (writeItems [] after) hitem (by omega)
    rw [readItems?, hread]
    simp [writeItems, skipSpace_cons, isSpace]
  | bound + 1, next :: items =>
    have hread := readValue?_writeOnto bound (writeItems (next :: items) after) hitem (by omega)
    have hmore := readItems?_writeItems bound after hrest (by
      simp only [writeItems, List.length_cons] at hlong hbound
      omega)
    rw [readItems?, hread]
    simp [writeItems, skipSpace_cons, isSpace, hmore]

/-- The fields of an object are read back up to its closing brace. -/
theorem readFields?_writeFields (bound : Nat) (after : List Char) {name : String} {value : Json}
    {fields : List (String × Json)} (h : ∀ field ∈ (name, value) :: fields, Plain field.2)
    (hbound : (quote name ++ ':' :: writeOnto value (writeFields fields after)).length ≤
      bound + after.length) :
    readFields? bound (quote name ++ ':' :: writeOnto value (writeFields fields after)) =
      some ((some name, value) :: fields.map (fun field => (some field.1, field.2)), after) := by
  have hvalue : Plain value := h (name, value) List.mem_cons_self
  have hrest : ∀ field ∈ fields, Plain field.2 := fun f hf => h f (List.mem_cons_of_mem _ hf)
  have hlong := length_lt_writeOnto hvalue (writeFields fields after)
  have hlonger := length_lt_writeFields hrest after
  simp only [List.length_append, List.length_cons] at hbound
  match bound, fields with
  | 0, _ => omega
  | bound + 1, [] =>
    have hread := readValue?_writeOnto bound (writeFields [] after) hvalue (by omega)
    rw [readFields?, skipSpace_quote]
    simp only [readQuoted?_escape, Option.bind_eq_bind, Option.bind_some,
      skipSpace_cons (c := ':') (by decide), hread]
    simp [writeFields, skipSpace_cons, isSpace]
  | bound + 1, (next, content) :: fields =>
    have hread := readValue?_writeOnto bound (writeFields ((next, content) :: fields) after) hvalue
      (by omega)
    have hmore := readFields?_writeFields bound after hrest (by
      simp only [writeFields, List.length_cons, List.length_append] at hlong hbound ⊢
      omega)
    rw [readFields?, skipSpace_quote]
    simp only [readQuoted?_escape, Option.bind_eq_bind, Option.bind_some,
      skipSpace_cons (c := ':') (by decide), hread]
    simp [writeFields, skipSpace_cons, isSpace, hmore]

end

/-- **The compact text of a plain value denotes the value.** -/
theorem read?_compact {j : Json} (h : Plain j) : read? j.compact = some j := by
  have hread := readValue?_writeOnto (2 * (writeOnto j []).length + 2) [] h
    (by simp only [List.length_nil]; omega)
  simp [read?, compact, readChars?, hread, skipSpace]

/-- No two plain values share a text. -/
theorem compact_injective {i j : Json} (hi : Plain i) (hj : Plain j)
    (h : i.compact = j.compact) : i = j := by
  have hread := read?_compact hi
  rw [h, read?_compact hj] at hread
  exact (Option.some.inj hread).symm

end PeriodScaler.Json
