import PeriodScaler.Proofs.Scaling.Tables

/-!
# The course of one entry

A pass goes place by place, with all the entries of a place. Here it is told entry by entry: what
becomes of an entry in the course of some legs, and which lines are written for it. The two agree
when each entry has a source of its own, since what a leg does to an entry leaves it its source.

* **`Leg.stepOver_eq_map`**: each entry of the table has run its course.
* **`Part.about_lines`**: the lines about an entry are those of its course.
* **`Sweep.anyTouches_iff`**: which entries a sweep reaches.
-/

namespace PeriodScaler

variable {ε β : Type}

/-- The lines about one source. -/
def Line.about (x : Source) (lines : List Line) : List Line :=
  Line.sparedOf (fun y => decide (y = x)) lines

@[simp] theorem Line.about_append (x : Source) (l l' : List Line) :
    Line.about x (l ++ l') = Line.about x l ++ Line.about x l' :=
  List.filter_append l l'

theorem Line.mem_about {x : Source} {line : Line} {lines : List Line} :
    line ∈ Line.about x lines ↔ line ∈ lines ∧ line.source = x := by
  unfold Line.about Line.sparedOf
  rw [List.mem_filter, decide_eq_true_iff]

theorem Line.about_of_forall_ne {x : Source} {lines : List Line}
    (h : ∀ line ∈ lines, line.source ≠ x) : Line.about x lines = [] := by
  refine List.filter_eq_nil_iff.mpr fun line hline hsame => ?_
  exact h line hline (of_decide_eq_true hsame)

theorem Line.about_of_forall_eq {x : Source} {lines : List Line}
    (h : ∀ line ∈ lines, line.source = x) : Line.about x lines = lines :=
  List.filter_eq_self.mpr fun line hline => decide_eq_true (h line hline)

namespace Leg

/-- What becomes of an entry in the course of some legs. -/
def course : List (Leg ε) → ε → ε
  | [], e => e
  | leg :: rest, e => course rest (leg.bring e)

/-- The lines that some legs write for an entry. -/
def linesFor : List (Leg ε) → ε → List Line
  | [], _ => []
  | leg :: rest, e => (if leg.touches e then [leg.line e] else []) ++ linesFor rest (leg.bring e)

/-- **Each entry of the table has run its course.** -/
theorem stepOver_eq_map : ∀ (legs : List (Leg ε)) (entries : List ε),
    stepOver legs entries = entries.map (course legs)
  | [], entries => (List.map_id entries).symm
  | leg :: rest, entries => by
    rw [stepOver, stepOver_eq_map rest, List.map_map]
    rfl

variable {source : ε → Source}

/-- The entry of a source is the only one that has it. -/
theorem sparedOf_source {entries : List ε} (hentries : (entries.map source).Nodup) {e : ε}
    (he : e ∈ entries) : sparedOf source (fun y => decide (y = source e)) entries = [e] := by
  induction entries with
  | nil => exact absurd he List.not_mem_nil
  | cons x rest ih =>
    obtain ⟨hfresh, hrest⟩ := List.nodup_cons.mp hentries
    unfold sparedOf at ih ⊢
    by_cases hx : source x = source e
    · have hnone : rest.filter (fun y => decide (source y = source e)) = [] := by
        refine List.filter_eq_nil_iff.mpr fun y hy hsame => ?_
        refine hfresh (List.mem_map.mpr ⟨y, hy, ?_⟩)
        rw [of_decide_eq_true hsame, hx]
      obtain rfl := List.inj_on_of_nodup_map hentries List.mem_cons_self he hx
      rw [List.filter_cons, if_pos (decide_eq_true rfl), hnone]
    · have hmem : e ∈ rest := by
        rcases List.mem_cons.mp he with rfl | hmem
        · exact absurd rfl hx
        · exact hmem
      rw [List.filter_cons_of_neg (by simpa using hx)]
      exact ih hrest hmem

/-- What is said of an item is about an item. -/
theorem isItem_of_about {x : Source} (hx : x.isItem = true) :
    ∀ y, decide (y = x) = true → y.isItem = true := by
  intro y hy
  rw [of_decide_eq_true hy]
  exact hx

/-- The lines that some legs write about an entry are those of its course. -/
theorem about_linesOver : ∀ {legs : List (Leg ε)} {entries : List ε} {e : ε},
    (∀ leg ∈ legs, leg.IsOver source) → (entries.map source).Nodup → e ∈ entries →
      (source e).isItem = true →
        Line.about (source e) (linesOver legs entries) = linesFor legs e
  | [], _, _, _, _, _, _ => rfl
  | leg :: rest, entries, e, hlegs, hentries, he, hitem => by
    obtain ⟨hleg, hrest⟩ := List.forall_mem_cons.mp hlegs
    have hfirst : Line.about (source e) (leg.lines entries) =
        if leg.touches e then [leg.line e] else [] := by
      unfold Line.about
      rw [hleg.sparedOf_lines (isItem_of_about hitem), sparedOf_source hentries he]
      by_cases htouched : leg.touches e = true
      · rw [List.filter_cons_of_pos htouched, if_pos htouched]
        rfl
      · rw [List.filter_cons_of_neg htouched, if_neg htouched]
        rfl
    have hsource := hleg.source_bring e
    have hothers : Line.about (source (leg.bring e))
        (linesOver rest (entries.map leg.bring)) = linesFor rest (leg.bring e) :=
      about_linesOver hrest (hleg.map_source_bring entries ▸ hentries)
        (List.mem_map_of_mem he) (hsource ▸ hitem)
    rw [hsource] at hothers
    rw [linesOver, Line.about_append, hfirst, hothers, linesFor]

/-! ### Legs that bring entries to the same state -/

section Settling

variable {after : ε → ε} {line : ε → Line} {legs : List (Leg ε)} {e : ε}

/-- The legs do the same to an entry, and say the same of it. -/
def AreAlike (after : ε → ε) (line : ε → Line) (legs : List (Leg ε)) : Prop :=
  ∀ leg ∈ legs, leg.after = after ∧ leg.line = line

theorem bring_of_untouched {leg : Leg ε} (h : leg.touches e = false) : leg.bring e = e := by
  rw [bring, h]
  rfl

theorem bring_of_touched {leg : Leg ε} (h : leg.touches e = true) : leg.bring e = leg.after e := by
  rw [bring, h]
  rfl

/-- An entry that is to stay where it is stays there, whichever legs touch it. -/
theorem course_of_still (hlegs : AreAlike after line legs) (hstill : after e = e) :
    course legs e = e := by
  induction legs with
  | nil => rfl
  | cons leg rest ih =>
    obtain ⟨⟨hafter, -⟩, hrest⟩ := List.forall_mem_cons.mp hlegs
    have hbring : leg.bring e = e := by
      unfold bring
      rw [hafter, hstill, ite_self]
    rw [course, hbring]
    exact ih hrest

/-- **One leg that touches an entry brings it where it is to be**, and the others leave it there. -/
theorem course_eq (hlegs : AreAlike after line legs) (hagain : after (after e) = after e) :
    course legs e = if anyTouches legs e then after e else e := by
  induction legs with
  | nil => rfl
  | cons leg rest ih =>
    obtain ⟨⟨hafter, -⟩, hrest⟩ := List.forall_mem_cons.mp hlegs
    unfold anyTouches at ih ⊢
    cases htouched : leg.touches e with
    | true =>
      rw [course, bring_of_touched htouched, hafter, course_of_still hrest hagain, List.any_cons,
        htouched, Bool.true_or, if_pos rfl]
    | false =>
      rw [course, bring_of_untouched htouched, ih hrest, List.any_cons, htouched, Bool.false_or]

/-- Each line for an entry is about what it was, or about what it was brought to. -/
theorem eq_line_of_mem_linesFor (hlegs : AreAlike after line legs)
    (hagain : after (after e) = after e) {l : Line} (hl : l ∈ linesFor legs e) :
    anyTouches legs e = true ∧ (l = line e ∨ l = line (after e)) := by
  unfold anyTouches
  induction legs generalizing e with
  | nil => exact absurd hl List.not_mem_nil
  | cons leg rest ih =>
    obtain ⟨⟨hafter, hline⟩, hrest⟩ := List.forall_mem_cons.mp hlegs
    rw [linesFor] at hl
    cases htouched : leg.touches e with
    | true =>
      rw [List.any_cons, htouched, Bool.true_or]
      refine ⟨rfl, ?_⟩
      rw [if_pos htouched, bring_of_touched htouched, hafter, hline, List.singleton_append] at hl
      rcases List.mem_cons.mp hl with rfl | hl
      · exact Or.inl rfl
      · obtain ⟨-, h | h⟩ := ih hrest (by rw [hagain, hagain]) hl
        · exact Or.inr h
        · rw [hagain] at h
          exact Or.inr h
    | false =>
      rw [htouched, if_neg Bool.false_ne_true, bring_of_untouched htouched, List.nil_append] at hl
      rw [List.any_cons, htouched, Bool.false_or]
      exact ih hrest hagain hl

/-- The first leg that touches an entry says of it what it was. -/
theorem line_mem_linesFor (hlegs : AreAlike after line legs)
    (htouched : anyTouches legs e = true) : line e ∈ linesFor legs e := by
  unfold anyTouches at htouched
  induction legs with
  | nil => cases htouched
  | cons leg rest ih =>
    obtain ⟨⟨-, hline⟩, hrest⟩ := List.forall_mem_cons.mp hlegs
    rw [linesFor]
    cases hleg : leg.touches e with
    | true =>
      rw [if_pos rfl, hline]
      exact List.mem_append_left _ (List.mem_singleton.mpr rfl)
    | false =>
      rw [List.any_cons, hleg, Bool.false_or] at htouched
      rw [if_neg Bool.false_ne_true, bring_of_untouched hleg, List.nil_append]
      exact ih hrest htouched

/-- An entry that no leg touches stays as it is, and nothing is said of it. -/
theorem course_of_untouched (h : anyTouches legs e = false) :
    course legs e = e ∧ linesFor legs e = [] := by
  unfold anyTouches at h
  induction legs with
  | nil => exact ⟨rfl, rfl⟩
  | cons leg rest ih =>
    rw [List.any_cons, Bool.or_eq_false_iff] at h
    obtain ⟨hleg, hrest⟩ := h
    obtain ⟨hcourse, hlines⟩ := ih hrest
    rw [course, linesFor, bring_of_untouched hleg, hleg, if_neg Bool.false_ne_true, hlines]
    exact ⟨hcourse, rfl⟩

/-- An entry that was brought where it is to be looks to the legs as it did before. -/
def FindAgain (after : ε → ε) (legs : List (Leg ε)) : Prop :=
  ∀ leg ∈ legs, ∀ e, leg.touches (after e) = leg.touches e ∧ leg.name (after e) = leg.name e

theorem FindAgain.anyTouches (h : FindAgain after legs) (e : ε) :
    Leg.anyTouches legs (after e) = Leg.anyTouches legs e :=
  anyTouches_congr fun leg hleg => (h leg hleg e).1

/-- **Legs of which no two touch the same entry** bring it where it is to be once, and write one
line for it. -/
theorem course_of_exclusive (hlegs : AreAlike after line legs) (hfound : FindAgain after legs)
    (hexclusive : legs.Pairwise fun leg leg' => leg.touches e = true → leg'.touches e = false) :
    course legs e = (if anyTouches legs e then after e else e) ∧
      linesFor legs e = if anyTouches legs e then [line e] else [] := by
  induction legs with
  | nil => exact ⟨rfl, rfl⟩
  | cons leg rest ih =>
    obtain ⟨⟨hafter, hline⟩, halike⟩ := List.forall_mem_cons.mp hlegs
    obtain ⟨-, hfoundAgain⟩ := List.forall_mem_cons.mp hfound
    obtain ⟨hothers, hrest⟩ := List.pairwise_cons.mp hexclusive
    cases htouched : leg.touches e with
    | true =>
      have hnone : anyTouches rest (after e) = false := by
        rw [FindAgain.anyTouches hfoundAgain]
        exact List.any_eq_false.mpr fun other hother => by
          rw [hothers other hother htouched]
          exact Bool.false_ne_true
      obtain ⟨hcourse, hlines⟩ := course_of_untouched hnone
      have hany : anyTouches (leg :: rest) e = true := by
        unfold anyTouches
        rw [List.any_cons, htouched, Bool.true_or]
      rw [course, linesFor, bring_of_touched htouched, hafter, hcourse, hlines, hline, htouched,
        hany]
      exact ⟨rfl, rfl⟩
    | false =>
      have hany : anyTouches (leg :: rest) e = anyTouches rest e := by
        unfold anyTouches
        rw [List.any_cons, htouched, Bool.false_or]
      rw [course, linesFor, bring_of_untouched htouched, htouched, hany]
      exact ih halike hfoundAgain hrest

theorem FindAgain.bring (h : FindAgain after legs) {leg other : Leg ε} (hafter : leg.after = after)
    (hother : other ∈ legs) (e : ε) :
    other.touches (leg.bring e) = other.touches e ∧ other.name (leg.bring e) = other.name e := by
  unfold Leg.bring
  split
  · rw [hafter]
    exact h other hother e
  · exact ⟨rfl, rfl⟩

/-- **The names that some legs see** are those of the entries that one of them touches. -/
theorem mem_seenOver (hlegs : AreAlike after line legs) (hfound : FindAgain after legs)
    {entries : List ε} {name : String} : name ∈ seenOver legs entries ↔
      ∃ e ∈ entries, ∃ leg ∈ legs, leg.touches e = true ∧ leg.name e = name := by
  induction legs generalizing entries with
  | nil =>
    constructor
    · exact fun h => absurd h List.not_mem_nil
    · rintro ⟨_, _, _, h, _⟩
      exact absurd h List.not_mem_nil
  | cons leg rest ih =>
    obtain ⟨⟨hafter, -⟩, halike⟩ := List.forall_mem_cons.mp hlegs
    obtain ⟨-, hfoundAgain⟩ := List.forall_mem_cons.mp hfound
    rw [seenOver, List.mem_append, ih halike hfoundAgain]
    unfold seen
    constructor
    · rintro (hmine | ⟨_, hmem, other, hother, htouched, hname⟩)
      · obtain ⟨e, he, rfl⟩ := List.mem_map.mp hmine
        obtain ⟨he, htouched⟩ := List.mem_filter.mp he
        exact ⟨e, he, leg, List.mem_cons_self, htouched, rfl⟩
      · obtain ⟨e, he, rfl⟩ := List.mem_map.mp hmem
        obtain ⟨htouches, hsame⟩ := FindAgain.bring hfoundAgain hafter hother e
        rw [htouches] at htouched
        rw [hsame] at hname
        exact ⟨e, he, other, List.mem_cons_of_mem leg hother, htouched, hname⟩
    · rintro ⟨e, he, other, hother, htouched, hname⟩
      rcases List.mem_cons.mp hother with rfl | hother
      · exact Or.inl (List.mem_map.mpr ⟨e, List.mem_filter.mpr ⟨he, htouched⟩, hname⟩)
      · obtain ⟨htouches, hsame⟩ := FindAgain.bring hfoundAgain hafter hother e
        exact Or.inr ⟨leg.bring e, List.mem_map_of_mem he, other, hother, htouches.trans htouched,
          hsame.trans hname⟩

/-- **Where the lines of some legs come from**: places that cannot be listed, and entries that are
touched. -/
theorem source_of_mem_linesOver {source : ε → Source} (hlegs : AreAlike after line legs)
    (hfound : FindAgain after legs) (hover : ∀ leg ∈ legs, leg.IsOver source) {entries : List ε}
    {l : Line} (hl : l ∈ linesOver legs entries) :
    (∃ leg ∈ legs, leg.refusal = some l) ∨
      ∃ e ∈ entries, anyTouches legs e = true ∧ l.source = source e := by
  induction legs generalizing entries with
  | nil => exact absurd hl List.not_mem_nil
  | cons leg rest ih =>
    obtain ⟨⟨hafter, -⟩, halike⟩ := List.forall_mem_cons.mp hlegs
    obtain ⟨-, hfoundAgain⟩ := List.forall_mem_cons.mp hfound
    obtain ⟨hleg, hrest⟩ := List.forall_mem_cons.mp hover
    unfold anyTouches at ih ⊢
    rw [linesOver, List.mem_append] at hl
    rcases hl with hl | hl
    · rcases List.mem_append.mp hl with hl | hl
      · exact Or.inl ⟨leg, List.mem_cons_self, Option.mem_toList.mp hl⟩
      · obtain ⟨e, he, rfl⟩ := List.mem_map.mp hl
        obtain ⟨he, htouched⟩ := List.mem_filter.mp he
        refine Or.inr ⟨e, he, ?_, hleg.source_line e⟩
        rw [List.any_cons, htouched, Bool.true_or]
    · rcases ih halike hfoundAgain hrest hl with
        ⟨other, hother, hrefusal⟩ | ⟨_, hmem, hany, hsource⟩
      · exact Or.inl ⟨other, List.mem_cons_of_mem leg hother, hrefusal⟩
      · obtain ⟨e, he, rfl⟩ := List.mem_map.mp hmem
        refine Or.inr ⟨e, he, ?_, hsource.trans (hleg.source_bring e)⟩
        obtain ⟨other, hother, htouched⟩ := List.any_eq_true.mp hany
        rw [(FindAgain.bring hfoundAgain hafter hother e).1] at htouched
        exact List.any_eq_true.mpr ⟨other, List.mem_cons_of_mem leg hother, htouched⟩

end Settling

end Leg

/-- **The lines of a kind about an entry** are those of its course. -/
theorem Part.about_lines {source : ε → Source} {part : Part ε} (h : part.IsOver source)
    {entries : List ε} (hentries : (entries.map source).Nodup) {e : ε} (he : e ∈ entries)
    (hitem : (source e).isItem = true) :
    Line.about (source e) (part.lines entries) = Leg.linesFor part.legs e := by
  have hclose : Line.about (source e) (part.close (Leg.seenOver part.legs entries)) = [] :=
    Line.sparedOf_eq_nil (Leg.isItem_of_about hitem) (h.close _)
  rw [Part.lines, Line.about_append, hclose, List.append_nil,
    Leg.about_linesOver h.legs hentries he hitem]

/-! ## Sweeps -/

namespace Sweep

variable {s : Sweep β} {b : Backing ε β} {places : List String} {e : ε}

/-- What a sweep does is the same at all its places. -/
theorem areAlike (s : Sweep β) (b : Backing ε β) (places : List String) :
    Leg.AreAlike b.after (fun e => ⟨b.source e, b.report e⟩) (s.part b places).legs :=
  List.forall_mem_map.mpr fun _ _ => ⟨rfl, rfl⟩

/-- **Which entries a sweep reaches**: those that are at one of its places that can be listed, and
are named. -/
theorem anyTouches_iff : Leg.anyTouches (s.part b places).legs e = true ↔
    (∃ place ∈ places, b.refusal place = none ∧ b.isAt place e = true) ∧
      isNamed s.names (s.name (b.item e)) = true := by
  unfold Leg.anyTouches part leg
  simp only [List.any_map, List.any_eq_true, Function.comp_apply, Bool.and_eq_true,
    Option.isNone_iff_eq_none]
  constructor
  · rintro ⟨place, hplace, hrefusal, hat, hnamed⟩
    exact ⟨⟨place, hplace, hrefusal, hat⟩, hnamed⟩
  · rintro ⟨⟨place, hplace, hrefusal, hat⟩, hnamed⟩
    exact ⟨place, hplace, hrefusal, hat, hnamed⟩

end Sweep

end PeriodScaler
