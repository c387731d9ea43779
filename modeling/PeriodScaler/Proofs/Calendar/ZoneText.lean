import PeriodScaler.Calendar.Zone
import Mathlib.Tactic.Common

/-!
# Time zone texts that cannot be cut

Hours and minutes without a colon between them are cut after two bytes. A text of four bytes whose
second and third byte belong to one character has no such cut, and this is the only way in which
the reading of a time zone is left without an answer.

* **`cutBytes?_eq_none_iff`**: a cut fails exactly when no character ends there.
* **`cut_eq_insideCharacter_iff`**: which parts after a sign cannot be cut.
* **`offset_fault_iff`**: reading a time zone faults exactly on the texts of `CutsCharacter`.
-/

namespace PeriodScaler.Zone

/-! ## Cuts -/

@[simp] theorem byteLength_nil : byteLength [] = 0 := rfl

@[simp] theorem byteLength_cons (c : Char) (cs : List Char) :
    byteLength (c :: cs) = c.utf8Size + byteLength cs := rfl

/-- **A cut fails exactly when no character ends there.** -/
theorem cutBytes?_eq_none_iff {cs : List Char} : ∀ {n : Nat},
    cutBytes? n cs = none ↔ ∀ before after, cs = before ++ after → byteLength before ≠ n := by
  induction cs with
  | nil =>
    intro n
    cases n with
    | zero => simp [cutBytes?]
    | succ n => simp [cutBytes?]
  | cons c cs ih =>
    intro n
    cases n with
    | zero =>
      rw [cutBytes?]
      simp only [reduceCtorEq, false_iff, not_forall]
      exact ⟨[], c :: cs, rfl, fun h => h rfl⟩
    | succ n =>
      rw [cutBytes?]
      split
      · rename_i hfits
        rw [Option.map_eq_none_iff, ih]
        constructor
        · rintro h (_ | ⟨d, before⟩) after heq
          · simp
          · obtain ⟨rfl, rfl⟩ := List.cons.inj heq
            have := h before after rfl
            rw [byteLength_cons]
            omega
        · rintro h before after rfl
          have := h (c :: before) after rfl
          rw [byteLength_cons] at this
          omega
      · rename_i hwide
        refine iff_of_true rfl ?_
        rintro (_ | ⟨d, before⟩) after heq
        · simp
        · obtain ⟨rfl, -⟩ := List.cons.inj heq
          rw [byteLength_cons]
          omega

theorem splitOnce?_eq_none_iff {c : Char} {cs : List Char} :
    Text.splitOnce? [c] cs = none ↔ c ∉ cs := by
  induction cs with
  | nil => simp [Text.splitOnce?]
  | cons d cs ih =>
    unfold Text.splitOnce?
    by_cases h : c = d
    · simp [h]
    · simp [h, ih]

/-- A part after a sign cannot be cut when it has four bytes, no colon, and a character across the
middle. -/
theorem cut_eq_insideCharacter_iff {part : List Char} :
    cut part = .insideCharacter ↔ ':' ∉ part ∧ byteLength part = 4 ∧
      ∀ before after, part = before ++ after → byteLength before ≠ 2 := by
  rw [← cutBytes?_eq_none_iff, ← splitOnce?_eq_none_iff]
  unfold cut
  cases Text.splitOnce? [':'] part with
  | some halves => simp
  | none =>
    by_cases hlen : byteLength part = 4
    · cases cutBytes? 2 part with
      | some halves => simp [hlen]
      | none => simp [hlen]
    · simp [hlen]

/-! ## Faults -/

/-- What a sign starts, without a name in front of it. -/
def unnamed (cs : List Char) : List Char :=
  ((Text.dropLead? "UTC".toList cs).or (Text.dropLead? "GMT".toList cs)).getD cs

/-- The part after the sign has four bytes and no colon, and none of its characters ends after the
second byte. -/
def CutsCharacter (zone : Option String) : Prop :=
  ∃ sign part, (sign = '+' ∨ sign = '-') ∧
    unnamed (normal (zone.getD "")).toList = sign :: part ∧
    ':' ∉ part ∧ byteLength part = 4 ∧
    ∀ before after, part = before ++ after → byteLength before ≠ 2

/-- An offset with a sign faults when the part after it cannot be cut. -/
theorem signed_fault_iff {raw : String} {sign : Int} {part : List Char} {f : Fault} :
    signed raw sign part = .error (.fault f) ↔ f = .cut ∧ cut part = .insideCharacter := by
  unfold signed
  cases cut part with
  | insideCharacter => simp [eq_comm]
  | parts hours minutes =>
    simp only [reduceCtorEq, and_false, iff_false]
    split
    · split
      · simp
      · split
        · simp
        · simp
    · simp

theorem cutsCharacter_iff {zone : Option String} : CutsCharacter zone ↔
    ∃ sign part, (sign = '+' ∨ sign = '-') ∧
      unnamed (normal (zone.getD "")).toList = sign :: part ∧ cut part = .insideCharacter := by
  simp only [CutsCharacter, cut_eq_insideCharacter_iff]

/-- **Reading a time zone faults exactly when a character lies across the cut.** -/
theorem offset_fault_iff {zone : Option String} {f : Fault} :
    offset zone = .error (.fault f) ↔ f = .cut ∧ CutsCharacter zone := by
  have hrest : ∀ rest, unnamed (normal (zone.getD "")).toList = rest → (CutsCharacter zone ↔
      ∃ sign part, (sign = '+' ∨ sign = '-') ∧ rest = sign :: part ∧
        cut part = .insideCharacter) := by
    rintro rest rfl
    exact cutsCharacter_iff
  unfold offset
  simp only
  split
  · rename_i h
    rw [hrest _ h]
    simp
  · rename_i h
    rw [hrest _ h]
    simp
  · rename_i part h
    rw [hrest _ h, signed_fault_iff]
    simp
  · rename_i part h
    rw [hrest _ h, signed_fault_iff]
    simp
  · rename_i hnil hz hplus hminus
    rw [hrest _ rfl]
    simp only [reduceCtorEq, Except.error.injEq, false_iff, not_and, not_exists]
    rintro - sign part (rfl | rfl) hsign
    · exact absurd hsign (hplus part)
    · exact absurd hsign (hminus part)

end PeriodScaler.Zone
