import PeriodScaler.Text.Decimal
import Mathlib.Tactic.Common

/-!
# Numbers and their decimal forms

What is written is read back: the decimal form of a number is a run of digits, with a minus in front
of a negative one, and the readers give the number itself when it is within their bounds.

* **`digits?_toDigits`**: the digits of a number read as that number.
* **`int?_ofInt`**: a whole number within the bounds is read back from its decimal form.
* **`int?_bounds`**: what is read is within the bounds.
* **`digits?_eq_some_iff`**, **`int?_eq_some_iff`**: what the readers accept, told without them.
-/

namespace PeriodScaler.Text

theorem digit?_of_isDigit {c : Char} (h : c.isDigit = true) :
    digit? c = some (c.toNat - '0'.toNat) :=
  if_pos (by simpa [Char.isDigit, Char.le_def] using h)

theorem digitsFrom_eq {cs : List Char} (h : ∀ c ∈ cs, c.isDigit = true) :
    ∀ acc, digitsFrom acc cs = some (Nat.ofDigitChars 10 cs acc) := by
  induction cs with
  | nil =>
    intro acc
    rw [digitsFrom, Nat.ofDigitChars_nil]
  | cons c cs ih =>
    intro acc
    rw [digitsFrom, digit?_of_isDigit (h c List.mem_cons_self), Nat.ofDigitChars_cons,
      Nat.mul_comm 10 acc]
    exact ih (fun d hd => h d (List.mem_cons_of_mem c hd)) _

/-- **The digits of a number read as that number.** -/
theorem digits?_toDigits (n : Nat) : digits? (Nat.toDigits 10 n) = some n := by
  have hdigits : ∀ c ∈ Nat.toDigits 10 n, c.isDigit = true := fun c hc =>
    Nat.isDigit_of_mem_toDigits (by decide) (by decide) hc
  have hread := digitsFrom_eq hdigits 0
  rw [Nat.ofDigitChars_ten_toDigits] at hread
  unfold digits?
  split
  · rename_i hnil
    exact absurd hnil Nat.toDigits_ne_nil
  · exact hread

/-- Different numbers have different digits. -/
theorem ofNat_injective {m n : Nat} (h : ofNat m = ofNat n) : m = n := by
  have hdigits : Nat.toDigits 10 m = Nat.toDigits 10 n := String.ofList_injective h
  have hread := digits?_toDigits m
  rw [hdigits, digits?_toDigits] at hread
  exact (Option.some.inj hread).symm

theorem toDigits_ne_sign (k : Nat) (ds : List Char) :
    Nat.toDigits 10 k ≠ '+' :: ds ∧ Nat.toDigits 10 k ≠ '-' :: ds := by
  refine ⟨fun h => ?_, fun h => ?_⟩
  · have hplus := Nat.isDigit_of_mem_toDigits (n := k) (c := '+') (by decide)
      (Nat.le_refl 10) (h ▸ List.mem_cons_self)
    exact absurd hplus (by decide)
  · have hminus := Nat.isDigit_of_mem_toDigits (n := k) (c := '-') (by decide)
      (Nat.le_refl 10) (h ▸ List.mem_cons_self)
    exact absurd hminus (by decide)

/-- The digits of a number other than zero do not start with a zero. -/
theorem toDigits_ne_zero {k : Nat} (hk : k ≠ 0) (ds : List Char) :
    Nat.toDigits 10 k ≠ '0' :: ds := by
  induction k using Nat.strongRecOn generalizing ds with
  | ind k ih =>
    by_cases hsmall : k < 10
    · rw [Nat.toDigits_of_lt_base hsmall]
      have hdigit : ∀ d < 10, d ≠ 0 → d.digitChar ≠ '0' := by decide
      exact fun h => hdigit k hsmall hk (List.cons.inj h).1
    · rw [Nat.toDigits_of_base_le (by decide) (by omega)]
      intro h
      cases hfront : Nat.toDigits 10 (k / 10) with
      | nil => exact Nat.toDigits_ne_nil hfront
      | cons d rest =>
        rw [hfront, List.cons_append] at h
        obtain rfl := (List.cons.inj h).1
        exact ih (k / 10) (by omega) (by omega) rest hfront

/-- **A whole number within the bounds is read back** from its decimal form. -/
theorem int?_ofInt {lo hi n : Int} (hlo : lo ≤ n) (hhi : n ≤ hi) :
    int? lo hi (ofInt n).toList = some n := by
  unfold int?
  cases n with
  | ofNat k =>
    rw [ofInt, ofNat, String.toList_ofList]
    split
    · rename_i ds h
      exact absurd h (toDigits_ne_sign k ds).1
    · rename_i ds h
      exact absurd h (toDigits_ne_sign k ds).2
    · simp only [digits?_toDigits, Option.map_some, Option.bind_eq_bind, Option.bind_some]
      rw [if_pos ⟨hlo, hhi⟩]
  | negSucc k =>
    have hneg : -Int.ofNat (k + 1) = Int.negSucc k := rfl
    rw [ofInt, ofNat, String.toList_append, String.toList_ofList, String.toList_ofList,
      List.singleton_append]
    simp only [digits?_toDigits, Option.map_some, Option.bind_eq_bind, Option.bind_some, hneg]
    rw [if_pos ⟨hlo, hhi⟩]

theorem int32?_ofInt {n : Int} (hlo : -2147483648 ≤ n) (hhi : n ≤ 2147483647) :
    int32? (ofInt n).toList = some n :=
  int?_ofInt hlo hhi

/-- A number that is checked against the bounds is the one that was read. -/
theorem eq_of_checked {lo hi n : Int} {read : Option Int}
    (h : (read.bind fun value => if lo ≤ value ∧ value ≤ hi then some value else none) = some n) :
    read = some n ∧ lo ≤ n ∧ n ≤ hi := by
  obtain ⟨value, hread, hvalue⟩ := Option.bind_eq_some_iff.mp h
  split at hvalue
  · rename_i hbounds
    obtain rfl := Option.some.inj hvalue
    exact ⟨hread, hbounds⟩
  · cases hvalue

/-- **What is read is within the bounds.** -/
theorem int?_bounds {lo hi n : Int} {cs : List Char} (h : int? lo hi cs = some n) :
    lo ≤ n ∧ n ≤ hi := by
  unfold int? at h
  split at h
  · exact (eq_of_checked h).2
  · exact (eq_of_checked h).2
  · exact (eq_of_checked h).2

/-! ## What is accepted -/

/-- A text of decimal digits, one at least, writes a number. -/
structure Writes (cs : List Char) (n : Nat) : Prop where
  nonempty : cs ≠ []
  isDigit : ∀ c ∈ cs, c.isDigit = true
  value : Nat.ofDigitChars 10 cs 0 = n

/-- A whole number as digits, with a sign in front or none. -/
inductive WritesSigned : List Char → Int → Prop where
  | bare {cs : List Char} {n : Nat} (h : Writes cs n) : WritesSigned cs n
  | plus {cs : List Char} {n : Nat} (h : Writes cs n) : WritesSigned ('+' :: cs) n
  | minus {cs : List Char} {n : Nat} (h : Writes cs n) : WritesSigned ('-' :: cs) (-n)

theorem isDigit_of_digit? {c : Char} {n : Nat} (h : digit? c = some n) : c.isDigit = true := by
  unfold digit? at h
  split at h
  · rename_i hrange
    simpa [Char.isDigit, Char.le_def] using hrange
  · cases h

theorem isDigit_of_digitsFrom {cs : List Char} : ∀ {acc n : Nat}, digitsFrom acc cs = some n →
    ∀ c ∈ cs, c.isDigit = true := by
  induction cs with
  | nil => exact fun _ c hc => absurd hc List.not_mem_nil
  | cons d cs ih =>
    intro acc n h
    obtain ⟨k, hk, hrest⟩ := Option.bind_eq_some_iff.mp h
    exact List.forall_mem_cons.mpr ⟨isDigit_of_digit? hk, ih hrest⟩

/-- **A run of digits is read, and nothing else.** -/
theorem digits?_eq_some_iff {cs : List Char} {n : Nat} : digits? cs = some n ↔ Writes cs n := by
  have hne : cs ≠ [] → digits? cs = digitsFrom 0 cs := by
    intro hne
    unfold digits?
    split
    · exact absurd rfl hne
    · rfl
  constructor
  · intro h
    have hcs : cs ≠ [] := by
      rintro rfl
      cases h
    rw [hne hcs] at h
    have hdigits := isDigit_of_digitsFrom h
    rw [digitsFrom_eq hdigits] at h
    exact ⟨hcs, hdigits, Option.some.inj h⟩
  · rintro ⟨hcs, hdigits, rfl⟩
    rw [hne hcs, digitsFrom_eq hdigits]

/-- Digits are no signs. -/
theorem Writes.ne_sign {cs : List Char} {n : Nat} (h : Writes cs n) (ds : List Char) :
    cs ≠ '+' :: ds ∧ cs ≠ '-' :: ds := by
  constructor
  · rintro rfl
    exact absurd (h.isDigit '+' List.mem_cons_self) (by decide)
  · rintro rfl
    exact absurd (h.isDigit '-' List.mem_cons_self) (by decide)

/-- **A whole number within the bounds is read**, with a sign or without, and nothing else. -/
theorem int?_eq_some_iff {lo hi v : Int} {cs : List Char} :
    int? lo hi cs = some v ↔ WritesSigned cs v ∧ lo ≤ v ∧ v ≤ hi := by
  constructor
  · intro h
    refine ⟨?_, int?_bounds h⟩
    unfold int? at h
    split at h
    · obtain ⟨n, hn, rfl⟩ := Option.map_eq_some_iff.mp (eq_of_checked h).1
      exact .plus (digits?_eq_some_iff.mp hn)
    · obtain ⟨n, hn, rfl⟩ := Option.map_eq_some_iff.mp (eq_of_checked h).1
      exact .minus (digits?_eq_some_iff.mp hn)
    · obtain ⟨n, hn, rfl⟩ := Option.map_eq_some_iff.mp (eq_of_checked h).1
      exact .bare (digits?_eq_some_iff.mp hn)
  · rintro ⟨hwrites, hbounds⟩
    unfold int?
    cases hwrites with
    | bare h =>
      split
      · exact absurd rfl (h.ne_sign _).1
      · exact absurd rfl (h.ne_sign _).2
      · rw [digits?_eq_some_iff.mpr h]
        exact if_pos hbounds
    | plus h | minus h =>
      simp only
      rw [digits?_eq_some_iff.mpr h]
      exact if_pos hbounds

end PeriodScaler.Text
