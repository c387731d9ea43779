import PeriodScaler.Proofs.Calendar.ZoneText
import PeriodScaler.Proofs.Text.Decimal

/-!
# The forms of time zone texts

After the sign of an offset stand hours alone, two digits for the hours and two for the minutes, or
hours and minutes with a colon between them (`Form`). With digits only, and within the bounds, they
are the documented forms (`Names`), and each of these is read as the offset that it names.

The numbers are read by a reader that takes a sign of their own, and are only bounded from above. So
a text with a further sign behind the first one can be read too (`Misread`), as an offset of the
other sign, beyond the bounds, or one that the sum of its seconds wraps around to.

* **`cut_form_iff`**: what is cut into two numbers has one of the forms, and nothing else has.
* **`signed_eq_ok_iff`**: which offset is read from what follows the sign.
* **`offset_accepted_iff`**: a text is read exactly when it names an offset or is misread, and it
  never does both.
-/

namespace PeriodScaler.Zone

open Text (Writes WritesSigned)

/-! ## Texts -/

/-- The text of a time zone, without a name in front. -/
def bare (zone : Option String) : List Char :=
  unnamed (normal (zone.getD "")).toList

/-- A time zone text stands for UTC itself. -/
def IsUtc (zone : Option String) : Prop :=
  bare zone = [] ∨ bare zone = ['Z']

/-- The signs of an offset. -/
inductive IsSign : Char → Int → Prop where
  | ahead : IsSign '+' 1
  | behind : IsSign '-' (-1)

/-- What stands after the sign, for hours `h` and minutes `m`, when `Reads` says which texts are
numbers. -/
inductive Form (Reads : List Char → Int → Prop) : List Char → Int → Int → Prop where
  | hours {part : List Char} {h : Int} (hh : Reads part h) (hlen : part.length ≠ 4) :
    Form Reads part h 0
  | adjoined {hs ms : List Char} {h m : Int} (hh : Reads hs h) (hm : Reads ms m)
    (hslen : hs.length = 2) (hmlen : ms.length = 2) : Form Reads (hs ++ ms) h m
  | separated {hs ms : List Char} {h m : Int} (hh : Reads hs h) (hm : Reads ms m) :
    Form Reads (hs ++ ':' :: ms) h m

/-- A number as it is documented: digits. -/
def Digits (cs : List Char) (n : Int) : Prop :=
  ∃ k : Nat, Writes cs k ∧ n = k

/-- A number of 32 bits. -/
def FitsWord (n : Int) : Prop :=
  -2147483648 ≤ n ∧ n ≤ 2147483647

/-- A number as it is read: digits, with a sign or without, in 32 bits. -/
def Numeral (cs : List Char) (n : Int) : Prop :=
  WritesSigned cs n ∧ FitsWord n

/-- **A time zone text names an offset** in one of the documented forms. -/
inductive Names (zone : Option String) : Offset → Prop where
  | utc (h : IsUtc zone) : Names zone .utc
  | signed {c : Char} {s h m : Int} {part : List Char} {o : Offset} (hsign : IsSign c s)
    (hbare : bare zone = c :: part) (hform : Form Digits part h m) (hh : h ≤ 14) (hm : m ≤ 59)
    (ho : o.seconds = s * (h * 3600 + m * 60)) : Names zone o

/-- The numbers of which seconds are summed up: a sign, hours and minutes that were read and pass
the bounds. -/
def Reaches (zone : Option String) (s h m : Int) : Prop :=
  ∃ c part, IsSign c s ∧ bare zone = c :: part ∧ Form Numeral part h m ∧ h ≤ 14 ∧ m ≤ 59

/-- The seconds of an offset, as they are summed up in 32 bits. -/
def total (s h m : Int) : Int :=
  wrap32 (s * wrap32 (h * 3600 + m * 60))

/-- A sign stands behind the first one. -/
def IsSignedTwice (zone : Option String) : Prop :=
  ∃ c part, bare zone = c :: part ∧ ('+' ∈ part ∨ '-' ∈ part)

/-- A time zone text with a further sign is read as an offset. -/
def Misread (zone : Option String) (o : Offset) : Prop :=
  IsSignedTwice zone ∧ ∃ s h m, Reaches zone s h m ∧ o.seconds = total s h m

/-! ## Cuts -/

theorem byteLength_eq_length {cs : List Char} (h : ∀ c ∈ cs, c.utf8Size = 1) :
    byteLength cs = cs.length := by
  induction cs with
  | nil => rfl
  | cons c cs ih =>
    obtain ⟨hc, hcs⟩ := List.forall_mem_cons.mp h
    rw [byteLength_cons, hc, ih hcs, List.length_cons, Nat.add_comm]

/-- **A cut is where a character ends** after so many bytes. -/
theorem cutBytes?_eq_some_iff {cs before after : List Char} : ∀ {n : Nat},
    cutBytes? n cs = some (before, after) ↔ cs = before ++ after ∧ byteLength before = n := by
  induction cs generalizing before with
  | nil =>
    intro n
    cases n with
    | zero => simp +contextual [cutBytes?, eq_comm]
    | succ n => simp +contextual [cutBytes?]
  | cons c cs ih =>
    intro n
    have hpos := c.utf8Size_pos
    cases n with
    | zero =>
      rw [cutBytes?]
      constructor
      · intro h
        obtain ⟨rfl, rfl⟩ := Prod.mk.inj (Option.some.inj h)
        exact ⟨rfl, rfl⟩
      · rintro ⟨heq, hlen⟩
        cases before with
        | nil => rw [heq]; rfl
        | cons d before =>
          obtain ⟨rfl, -⟩ := List.cons.inj heq
          rw [byteLength_cons] at hlen
          omega
    | succ n =>
      rw [cutBytes?]
      cases before with
      | nil =>
        refine iff_of_false ?_ fun h => Nat.succ_ne_zero n h.2.symm
        split
        · simp
        · simp
      | cons d before =>
        rw [List.cons_append, List.cons.injEq, byteLength_cons]
        split
        · rename_i hfits
          simp only [Option.map_eq_some_iff, Prod.mk.injEq, List.cons.injEq, Prod.exists]
          constructor
          · rintro ⟨b, a, hcut, ⟨rfl, rfl⟩, rfl⟩
            obtain ⟨rfl, hlen⟩ := ih.mp hcut
            exact ⟨⟨rfl, rfl⟩, by omega⟩
          · rintro ⟨⟨rfl, rfl⟩, hlen⟩
            exact ⟨before, after, ih.mpr ⟨rfl, by omega⟩, ⟨rfl, rfl⟩, rfl⟩
        · rename_i hwide
          refine iff_of_false (Option.some_ne_none _).symm ?_
          rintro ⟨⟨rfl, -⟩, hlen⟩
          omega

theorem splitOnce?_cons (c d : Char) (cs : List Char) : Text.splitOnce? [c] (d :: cs) =
    if c = d then some ([], cs)
    else (Text.splitOnce? [c] cs).map fun (before, after) => (d :: before, after) := by
  rw [Text.splitOnce?]
  simp only [List.isPrefixOf, Bool.and_true, beq_iff_eq, List.length_singleton, List.drop_succ_cons,
    List.drop_zero]

/-- **A text is split at the first separator.** -/
theorem splitOnce?_eq_some_iff {c : Char} {cs before after : List Char} :
    Text.splitOnce? [c] cs = some (before, after) ↔ cs = before ++ c :: after ∧ c ∉ before := by
  induction cs generalizing before with
  | nil => simp [Text.splitOnce?]
  | cons d cs ih =>
    rw [splitOnce?_cons]
    by_cases h : c = d
    · rw [if_pos h]
      cases before with
      | nil => simp [h]
      | cons e before => simp +contextual [h, eq_comm]
    · rw [if_neg h]
      cases before with
      | nil => simp [Ne.symm h]
      | cons e before =>
        simp only [Option.map_eq_some_iff, Prod.mk.injEq, Prod.exists, List.cons.injEq,
          List.cons_append, List.mem_cons, not_or]
        constructor
        · rintro ⟨b, a, hsplit, ⟨rfl, rfl⟩, rfl⟩
          obtain ⟨rfl, hfirst⟩ := ih.mp hsplit
          exact ⟨⟨rfl, rfl⟩, h, hfirst⟩
        · rintro ⟨⟨rfl, rfl⟩, -, hfirst⟩
          exact ⟨before, after, ih.mpr ⟨rfl, hfirst⟩, ⟨rfl, rfl⟩, rfl⟩

/-! ## Numbers in parts -/

theorem utf8Size_of_isDigit {c : Char} (h : c.isDigit = true) : c.utf8Size = 1 := by
  rw [Char.utf8Size_eq_one_iff]
  simp only [Char.isDigit, Bool.and_eq_true, decide_eq_true_eq] at h
  exact UInt32.le_trans h.2 (by decide)

theorem int32?_eq_some_iff {cs : List Char} {n : Int} :
    Text.int32? cs = some n ↔ Numeral cs n :=
  Text.int?_eq_some_iff

/-- A number is written with digits and signs. -/
theorem Numeral.chars {cs : List Char} {n : Int} (h : Numeral cs n) :
    ∀ c ∈ cs, c.isDigit = true ∨ c = '+' ∨ c = '-' := by
  obtain ⟨hwrites, -⟩ := h
  cases hwrites with
  | bare h => exact fun c hc => Or.inl (h.isDigit c hc)
  | plus h =>
    exact List.forall_mem_cons.mpr ⟨Or.inr (Or.inl rfl), fun c hc => Or.inl (h.isDigit c hc)⟩
  | minus h =>
    exact List.forall_mem_cons.mpr ⟨Or.inr (Or.inr rfl), fun c hc => Or.inl (h.isDigit c hc)⟩

/-- So it has as many bytes as characters, and no colon. -/
theorem Numeral.ascii {cs : List Char} {n : Int} (h : Numeral cs n) :
    byteLength cs = cs.length ∧ ':' ∉ cs := by
  constructor
  · refine byteLength_eq_length fun c hc => ?_
    rcases h.chars c hc with hdigit | rfl | rfl
    · exact utf8Size_of_isDigit hdigit
    · decide
    · decide
  · intro hc
    rcases h.chars ':' hc with hdigit | hplus | hminus
    · exact absurd hdigit (by decide)
    · exact absurd hplus (by decide)
    · exact absurd hminus (by decide)

theorem byteLength_append (cs ds : List Char) :
    byteLength (cs ++ ds) = byteLength cs + byteLength ds := by
  induction cs with
  | nil => exact (Nat.zero_add _).symm
  | cons c cs ih => rw [List.cons_append, byteLength_cons, byteLength_cons, ih, Nat.add_assoc]

/-- **What is cut into two numbers has one of the forms**, and nothing else has. -/
theorem cut_form_iff {part : List Char} {h m : Int} :
    (∃ hs ms, cut part = .parts hs ms ∧ Numeral hs h ∧ Numeral ms m) ↔ Form Numeral part h m := by
  have hzero : Numeral ['0'] 0 := int32?_eq_some_iff.mp (by decide)
  constructor
  · rintro ⟨hs, ms, hcut, hh, hm⟩
    unfold cut at hcut
    split at hcut
    · rename_i hsplit
      obtain ⟨rfl, rfl⟩ := Cut.parts.inj hcut
      obtain ⟨rfl, -⟩ := splitOnce?_eq_some_iff.mp hsplit
      exact .separated hh hm
    · split at hcut
      · rename_i hfour
        split at hcut
        · rename_i hbytes
          obtain ⟨rfl, rfl⟩ := Cut.parts.inj hcut
          obtain ⟨rfl, htwo⟩ := cutBytes?_eq_some_iff.mp hbytes
          rw [byteLength_append] at hfour
          exact .adjoined hh hm (hh.ascii.1.symm.trans htwo) (by rw [← hm.ascii.1]; omega)
        · cases hcut
      · rename_i hfour
        obtain ⟨rfl, rfl⟩ := Cut.parts.inj hcut
        obtain rfl : m = 0 :=
          Option.some.inj ((int32?_eq_some_iff.mpr hm).symm.trans (by decide))
        exact .hours hh (by rwa [← hh.ascii.1])
  · intro hform
    cases hform with
    | hours hh hlen =>
      refine ⟨part, ['0'], ?_, hh, hzero⟩
      unfold cut
      rw [splitOnce?_eq_none_iff.mpr hh.ascii.2]
      exact if_neg (by rwa [hh.ascii.1])
    | @adjoined hs ms _ _ hh hm hslen hmlen =>
      refine ⟨hs, ms, ?_, hh, hm⟩
      have hcolon : ':' ∉ hs ++ ms := by
        rw [List.mem_append]
        exact fun hc => hc.elim hh.ascii.2 hm.ascii.2
      have hfour : byteLength (hs ++ ms) = 4 := by
        rw [byteLength_append, hh.ascii.1, hm.ascii.1, hslen, hmlen]
      have htwo : cutBytes? 2 (hs ++ ms) = some (hs, ms) :=
        cutBytes?_eq_some_iff.mpr ⟨rfl, by rw [hh.ascii.1, hslen]⟩
      unfold cut
      rw [splitOnce?_eq_none_iff.mpr hcolon]
      simp only [hfour, if_true, htwo]
    | @separated hs ms _ _ hh hm =>
      refine ⟨hs, ms, ?_, hh, hm⟩
      unfold cut
      rw [splitOnce?_eq_some_iff.mpr ⟨rfl, hh.ascii.2⟩]

/-! ## Offsets -/

theorem ofSeconds?_eq_some_iff {n : Int} {o : Offset} :
    Offset.ofSeconds? n = some o ↔ o.seconds = n := by
  unfold Offset.ofSeconds?
  constructor
  · intro h
    split at h
    · obtain rfl := Option.some.inj h
      rfl
    · cases h
  · rintro rfl
    exact dif_pos ⟨o.lower, o.upper⟩

/-- **Which offset is read from what follows the sign**: its numbers are bounded from above, and the
sum of its seconds is less than a day either way. -/
theorem signed_eq_ok_iff {raw : String} {s : Int} {part : List Char} {o : Offset} :
    signed raw s part = .ok o ↔
      ∃ h m, Form Numeral part h m ∧ h ≤ 14 ∧ m ≤ 59 ∧ o.seconds = total s h m := by
  constructor
  · intro hread
    unfold signed at hread
    split at hread
    · cases hread
    · rename_i hs ms hcut
      split at hread
      · rename_i h m hh hm
        split at hread
        · cases hread
        · rename_i hbounds
          split at hread
          · rename_i hsum
            obtain rfl := Except.ok.inj hread
            refine ⟨h, m, cut_form_iff.mp ⟨hs, ms, hcut, int32?_eq_some_iff.mp hh,
              int32?_eq_some_iff.mp hm⟩, by omega, by omega, ofSeconds?_eq_some_iff.mp hsum⟩
          · cases hread
      · cases hread
  · rintro ⟨h, m, hform, hh, hm, ho⟩
    obtain ⟨hs, ms, hcut, hhs, hms⟩ := cut_form_iff.mpr hform
    have hbounds : ¬ (h > 14 ∨ m ≥ 60) := by omega
    unfold signed
    simp only [hcut, int32?_eq_some_iff.mpr hhs, int32?_eq_some_iff.mpr hms, if_neg hbounds]
    rw [show Offset.ofSeconds? (wrap32 (s * wrap32 (h * 3600 + m * 60))) = some o from
      ofSeconds?_eq_some_iff.mpr ho]

theorem IsSign.unique {c : Char} {s s' : Int} (h : IsSign c s) (h' : IsSign c s') : s = s' := by
  cases h <;> cases h' <;> rfl

/-- What starts with a sign is no name of UTC. -/
theorem Reaches.not_utc {zone : Option String} {s h m : Int} (hr : Reaches zone s h m) :
    ¬ IsUtc zone := by
  obtain ⟨c, part, hsign, hbare, -⟩ := hr
  rintro (hnil | hz)
  · cases hnil.symm.trans hbare
  · obtain ⟨rfl, -⟩ := List.cons.inj (hz.symm.trans hbare)
    cases hsign

theorem IsSignedTwice.not_utc {zone : Option String} (h : IsSignedTwice zone) :
    ¬ IsUtc zone := by
  obtain ⟨c, part, hbare, hsigned⟩ := h
  rintro (hnil | hz)
  · cases hnil.symm.trans hbare
  · obtain ⟨-, rfl⟩ := List.cons.inj (hz.symm.trans hbare)
    exact hsigned.elim nofun nofun

/-- **Which offset is read from a time zone text.** -/
theorem offset_eq_ok_iff {zone : Option String} {o : Offset} : offset zone = .ok o ↔
    (IsUtc zone ∧ o = .utc) ∨ ∃ s h m, Reaches zone s h m ∧ o.seconds = total s h m := by
  have hsigned {c : Char} {s : Int} {part : List Char} (hsign : IsSign c s)
      (hbare : bare zone = c :: part) : signed (normal (zone.getD "")) s part = .ok o ↔
        ∃ s h m, Reaches zone s h m ∧ o.seconds = total s h m := by
    rw [signed_eq_ok_iff]
    constructor
    · rintro ⟨h, m, hform, hh, hm, ho⟩
      exact ⟨s, h, m, ⟨c, part, hsign, hbare, hform, hh, hm⟩, ho⟩
    · rintro ⟨_, h, m, ⟨_, _, hsign', hbare', hform, hh, hm⟩, ho⟩
      obtain ⟨rfl, rfl⟩ := List.cons.inj (hbare.symm.trans hbare')
      obtain rfl := hsign.unique hsign'
      exact ⟨h, m, hform, hh, hm, ho⟩
  have hutc (h : IsUtc zone) : ((.ok .utc : Except ZoneError Offset) = .ok o ↔
      (IsUtc zone ∧ o = .utc) ∨ ∃ s h m, Reaches zone s h m ∧ o.seconds = total s h m) := by
    rw [or_iff_left fun ⟨_, _, _, hr, _⟩ => hr.not_utc h, and_iff_right h, Except.ok.injEq, eq_comm]
  have hother {cs : List Char} (hbare : bare zone = cs) (hcs : cs ≠ [] ∧ cs ≠ ['Z']) :
      ¬ (IsUtc zone ∧ o = .utc) := by
    unfold IsUtc
    rw [hbare]
    exact fun h => h.1.elim hcs.1 hcs.2
  unfold offset
  simp only
  split
  · rename_i hbare
    exact hutc (Or.inl hbare)
  · rename_i hbare
    exact hutc (Or.inr hbare)
  · rename_i part hbare
    rw [hsigned .ahead hbare, or_iff_right (hother hbare (by simp))]
  · rename_i part hbare
    rw [hsigned .behind hbare, or_iff_right (hother hbare (by simp))]
  · rename_i hnil hz hplus hminus
    refine iff_of_false nofun ?_
    rintro (⟨h | h, -⟩ | ⟨s, h, m, ⟨c, part, hsign, hbare, -⟩, -⟩)
    · exact hnil h
    · exact hz h
    · cases hsign with
      | ahead => exact hplus part hbare
      | behind => exact hminus part hbare

/-! ## Documented forms, and others -/

/-- Documented hours and minutes are read as such, and their seconds are summed up exactly. -/
theorem Form.of_digits {part : List Char} {h m : Int} (hform : Form Digits part h m) (hh : h ≤ 14)
    (hm : m ≤ 59) : Form Numeral part h m ∧ 0 ≤ h ∧ 0 ≤ m := by
  have hnumeral {cs : List Char} {n : Int} (hn : Digits cs n) (hmax : n ≤ 59) :
      Numeral cs n ∧ 0 ≤ n := by
    obtain ⟨k, hwrites, rfl⟩ := hn
    exact ⟨⟨.bare hwrites, by omega, by omega⟩, by omega⟩
  cases hform with
  | hours hhs hlen =>
    obtain ⟨hhs, hpos⟩ := hnumeral hhs (by omega)
    exact ⟨.hours hhs hlen, hpos, Int.le_refl 0⟩
  | adjoined hhs hms hslen hmlen =>
    obtain ⟨hhs, hpos⟩ := hnumeral hhs (by omega)
    obtain ⟨hms, hpos'⟩ := hnumeral hms hm
    exact ⟨.adjoined hhs hms hslen hmlen, hpos, hpos'⟩
  | separated hhs hms =>
    obtain ⟨hhs, hpos⟩ := hnumeral hhs (by omega)
    obtain ⟨hms, hpos'⟩ := hnumeral hms hm
    exact ⟨.separated hhs hms, hpos, hpos'⟩

theorem Digits.not_sign {cs : List Char} {n : Int} (h : Digits cs n) : '+' ∉ cs ∧ '-' ∉ cs := by
  obtain ⟨k, hwrites, -⟩ := h
  exact ⟨fun hc => absurd (hwrites.isDigit '+' hc) (by decide),
    fun hc => absurd (hwrites.isDigit '-' hc) (by decide)⟩

theorem Numeral.digits {cs : List Char} {n : Int} (h : Numeral cs n) (hplus : '+' ∉ cs)
    (hminus : '-' ∉ cs) : Digits cs n := by
  obtain ⟨hwrites, -⟩ := h
  cases hwrites with
  | bare h => exact ⟨_, h, rfl⟩
  | plus h => exact absurd List.mem_cons_self hplus
  | minus h => exact absurd List.mem_cons_self hminus

/-- **The documented forms are those without a further sign.** -/
theorem Form.digits_iff {part : List Char} {h m : Int} (hh : h ≤ 14) (hm : m ≤ 59) :
    Form Digits part h m ↔ Form Numeral part h m ∧ '+' ∉ part ∧ '-' ∉ part := by
  constructor
  · intro hform
    refine ⟨(hform.of_digits hh hm).1, ?_⟩
    cases hform with
    | hours hhs => exact hhs.not_sign
    | adjoined hhs hms =>
      simp only [List.mem_append, not_or]
      exact ⟨⟨hhs.not_sign.1, hms.not_sign.1⟩, hhs.not_sign.2, hms.not_sign.2⟩
    | separated hhs hms =>
      simp only [List.mem_append, List.mem_cons, not_or]
      exact ⟨⟨hhs.not_sign.1, by decide, hms.not_sign.1⟩, hhs.not_sign.2, by decide,
        hms.not_sign.2⟩
  · rintro ⟨hform, hplus, hminus⟩
    cases hform with
    | hours hhs hlen => exact .hours (hhs.digits hplus hminus) hlen
    | adjoined hhs hms hslen hmlen =>
      simp only [List.mem_append, not_or] at hplus hminus
      exact .adjoined (hhs.digits hplus.1 hminus.1) (hms.digits hplus.2 hminus.2) hslen hmlen
    | separated hhs hms =>
      simp only [List.mem_append, List.mem_cons, not_or] at hplus hminus
      exact .separated (hhs.digits hplus.1 hminus.1) (hms.digits hplus.2.2 hminus.2.2)

theorem wrap32_eq {n : Int} (h : FitsWord n) : wrap32 n = n := by
  obtain ⟨hlo, hhi⟩ := h
  exact Int.bmod_eq_of_le (by omega) (by omega)

/-- A sum that stays in 32 bits does not wrap around. -/
theorem total_eq {c : Char} {s h m : Int} (hsign : IsSign c s)
    (hlo : -2147483647 ≤ h * 3600 + m * 60) (hhi : h * 3600 + m * 60 ≤ 2147483647) :
    total s h m = s * (h * 3600 + m * 60) := by
  unfold total
  rw [wrap32_eq ⟨by omega, hhi⟩]
  cases hsign with
  | ahead => exact wrap32_eq ⟨by omega, by omega⟩
  | behind => exact wrap32_eq ⟨by omega, by omega⟩

/-- What names an offset has no further sign. -/
theorem Names.not_isSignedTwice {zone : Option String} {o : Offset} (h : Names zone o) :
    ¬ IsSignedTwice zone := by
  intro htwice
  cases h with
  | utc hutc => exact htwice.not_utc hutc
  | signed hsign hbare hform hh hm ho =>
    obtain ⟨c, part, hbare', hsigned⟩ := htwice
    obtain ⟨rfl, rfl⟩ := List.cons.inj (hbare.symm.trans hbare')
    obtain ⟨-, hplus, hminus⟩ := (Form.digits_iff hh hm).mp hform
    exact hsigned.elim hplus hminus

/-- **A text without a further sign is read as the offset that it names.** -/
theorem offset_eq_ok_iff_names {zone : Option String} {o : Offset} (h : ¬ IsSignedTwice zone) :
    offset zone = .ok o ↔ Names zone o := by
  rw [offset_eq_ok_iff]
  constructor
  · rintro (⟨hutc, rfl⟩ | ⟨s, hours, minutes, ⟨c, part, hsign, hbare, hform, hh, hm⟩, ho⟩)
    · exact .utc hutc
    · have hplain : '+' ∉ part ∧ '-' ∉ part :=
        ⟨fun hc => h ⟨c, part, hbare, Or.inl hc⟩, fun hc => h ⟨c, part, hbare, Or.inr hc⟩⟩
      have hdigits := (Form.digits_iff hh hm).mpr ⟨hform, hplain⟩
      obtain ⟨-, hhpos, hmpos⟩ := hdigits.of_digits hh hm
      exact .signed hsign hbare hdigits hh hm (ho.trans (total_eq hsign (by omega) (by omega)))
  · intro hnames
    cases hnames with
    | utc hutc => exact Or.inl ⟨hutc, rfl⟩
    | signed hsign hbare hform hh hm ho =>
      obtain ⟨hread, hhpos, hmpos⟩ := hform.of_digits hh hm
      exact Or.inr ⟨_, _, _, ⟨_, _, hsign, hbare, hread, hh, hm⟩,
        ho.trans (total_eq hsign (by omega) (by omega)).symm⟩

/-- What is read is named or misread. -/
theorem offset_eq_ok_iff_or {zone : Option String} {o : Offset} :
    offset zone = .ok o ↔ Names zone o ∨ Misread zone o := by
  by_cases htwice : IsSignedTwice zone
  · have hnot : ¬ Names zone o := fun h => h.not_isSignedTwice htwice
    rw [or_iff_right hnot, offset_eq_ok_iff, or_iff_right fun h => htwice.not_utc h.1]
    exact (and_iff_right htwice).symm
  · have hnot : ¬ Misread zone o := fun h => htwice h.1
    rw [or_iff_left hnot]
    exact offset_eq_ok_iff_names htwice

/-- An offset that a text names has the sign that is written, and is less than fifteen hours. -/
theorem Names.bounds {zone : Option String} {o : Offset} (h : Names zone o) :
    (∀ part, bare zone = '+' :: part → 0 ≤ o.seconds) ∧
      (∀ part, bare zone = '-' :: part → o.seconds ≤ 0) ∧
      -(15 * 3600) < o.seconds ∧ o.seconds < 15 * 3600 := by
  cases h with
  | utc h => exact ⟨fun _ _ => Int.le_refl 0, fun _ _ => Int.le_refl 0, by decide, by decide⟩
  | signed hsign hbare hform hh hm ho =>
    obtain ⟨-, hhpos, hmpos⟩ := hform.of_digits hh hm
    cases hsign with
    | ahead =>
      refine ⟨fun _ _ => by omega, fun part hminus => ?_, by omega, by omega⟩
      cases hbare.symm.trans hminus
    | behind =>
      refine ⟨fun part hplus => ?_, fun _ _ => by omega, by omega, by omega⟩
      cases hbare.symm.trans hplus

/-- **A time zone text is accepted exactly when it names an offset or is misread**, and no text does
both. An offset that is named has the sign that is written, and lies within fifteen hours of UTC; a
text is misread only when a sign stands behind the first one. -/
theorem offset_accepted_iff (zone : Option String) :
    (∀ o, offset zone = .ok o ↔ Names zone o ∨ Misread zone o) ∧
      (∀ o, Names zone o → (∀ o', ¬ Misread zone o') ∧
        (∀ part, bare zone = '+' :: part → 0 ≤ o.seconds) ∧
        (∀ part, bare zone = '-' :: part → o.seconds ≤ 0) ∧
        -(15 * 3600) < o.seconds ∧ o.seconds < 15 * 3600) :=
  ⟨fun _ => offset_eq_ok_iff_or,
    fun _ h => ⟨fun _ hmisread => h.not_isSignedTwice hmisread.1, h.bounds⟩⟩

/-- A sign ahead of UTC and then one behind it is read as an offset 22 hours behind UTC, which no
documented form names. -/
theorem twiceSigned_accepted :
    ∃ o, offset (some "+-23:59") = .ok o ∧ o.seconds = -23 * 3600 + 59 * 60 ∧
      ¬ Names (some "+-23:59") o :=
  ⟨⟨-79260, by decide, by decide⟩, by rfl, by decide,
    fun h => h.not_isSignedTwice ⟨'+', "-23:59".toList, by decide, by decide⟩⟩

end PeriodScaler.Zone
