import PeriodScaler.Period.Window
import PeriodScaler.Proofs.Calendar.Shift
import PeriodScaler.Proofs.Answers
import Mathlib.Logic.ExistsUnique

/-!
# Weekly windows

The occurrences of a weekly window follow each other without overlap: each one ends before the next
date's one starts, since an end that is not later in the day than the start lies on the next date.
So at most one of them covers a local time, it is the one of today or of yesterday, and those that
start later are the ones of the following dates. Every weekday comes up within seven days, so the
search ahead always ends.

* **`occurrence_unique`**: no two occurrences cover one time.
* **`exists_weekday_ahead`**: each weekday comes up among the next seven dates.
* **`window_cases`**: the window of a weekly timing is the occurrence that covers the local time, or
  the first one that starts later when none does.
* **`weekly_window_exact`**: the same, over all dates and with uniqueness and minimality.
* **`window_active_iff`**: the window is open exactly when the instant lies between its bounds.
* **`window_lasts`**: an open window is the window at every instant between its bounds.

The proofs order times by their stamps, in which a day has 172800000000000 units.
-/

namespace PeriodScaler

/-- The start of a window is at or before an instant, and its end is after it. -/
def Window.Contains (w : Window) (t : Instant) : Prop :=
  w.start ≤ t ∧ t < w.stop

instance (w : Window) (t : Instant) : Decidable (w.Contains t) :=
  inferInstanceAs (Decidable (_ ∧ _))

/-- The bounds of a window, as a clock at an offset shows them. -/
def Window.Shows (w : Window) (o : Offset) (bounds : DateTime × DateTime) : Prop :=
  o.localTime w.start = .ok bounds.1 ∧ o.localTime w.stop = .ok bounds.2

theorem Date.ext_day {d e : Date} (h : d.day = e.day) : d = e := by
  obtain ⟨day⟩ := d
  obtain rfl := h
  rfl

theorem Timing.recurring_window {w : Weekly} {o : Offset} {now : Instant}
    (hzone : Zone.offset w.timeZone = .ok o) :
    (Timing.recurring w).window now = w.window o now := by
  unfold Timing.window
  rw [Timing.timeZone, hzone, mapError_ok, ok_bind]

namespace Weekly

variable {start stop : Clock} {sel : List Weekday}

/-! ## Occurrences -/

/-- The occurrence of a date has started at a local time and not ended. -/
def Covers (start stop : Clock) (d : Date) (t : DateTime) : Prop :=
  (occurrence start stop d).1 ≤ t ∧ t < (occurrence start stop d).2

instance (d : Date) (t : DateTime) : Decidable (Covers start stop d t) :=
  inferInstanceAs (Decidable (_ ∧ _))

@[simp] theorem occurrence_start (d : Date) : (occurrence start stop d).1 = ⟨d, start⟩ := rfl

theorem occurrence_stop_date (start stop : Clock) (d : Date) :
    d.day ≤ (occurrence start stop d).2.date.day ∧
      (occurrence start stop d).2.date.day ≤ d.day + 1 := by
  unfold occurrence
  split
  · simp only
    omega
  · simp only [Date.addDays_day]
    omega

/-- An occurrence ends after it starts, and not after the start of the next date's one. -/
theorem occurrence_stop_bounds (start stop : Clock) (d : Date) :
    (occurrence start stop d).1 < (occurrence start stop d).2 ∧
      (occurrence start stop d).2 ≤ (occurrence start stop (d.addDays 1)).1 := by
  have ha := start.stamp_lt
  have hb := stop.stamp_lt
  unfold occurrence
  simp only [DateTime.lt_iff_stamp, DateTime.le_iff_stamp]
  split
  · rename_i h
    rw [Clock.lt_iff_stamp] at h
    simp only [DateTime.stamp_eq, Date.addDays_day]
    omega
  · rename_i h
    rw [Clock.lt_iff_stamp] at h
    simp only [DateTime.stamp_eq, Date.addDays_day]
    omega

/-- Occurrences start in the order of their dates. -/
theorem occurrence_start_le_iff {d e : Date} :
    (occurrence start stop d).1 ≤ (occurrence start stop e).1 ↔ d.day ≤ e.day := by
  have ha := start.stamp_lt
  simp only [occurrence_start, DateTime.le_iff_stamp, DateTime.stamp_eq]
  omega

/-- An occurrence that covers a time is the one of its date or of the date before. -/
theorem Covers.date {d : Date} {t : DateTime} (h : Covers start stop d t) :
    d = t.date ∨ d = t.date.addDays (-1) := by
  obtain ⟨hstart, hstop⟩ := h
  have hnext := (occurrence_stop_bounds start stop d).2
  have ha := start.stamp_lt
  obtain ⟨hlo, hhi⟩ := t.stamp_bounds
  simp only [occurrence_start, DateTime.le_iff_stamp, DateTime.lt_iff_stamp, DateTime.stamp_eq,
    Date.addDays_day] at hstart hstop hnext hlo hhi
  have hday : d.day = t.date.day ∨ d.day = t.date.day + -1 := by omega
  rcases hday with h | h
  · exact Or.inl (Date.ext_day h)
  · exact Or.inr (Date.ext_day h)

/-- **No two occurrences cover one time.** -/
theorem occurrence_unique {d e : Date} {t : DateTime} (hd : Covers start stop d t)
    (he : Covers start stop e t) : d = e := by
  have hdn := (occurrence_stop_bounds start stop d).2
  have hen := (occurrence_stop_bounds start stop e).2
  obtain ⟨hds, hdt⟩ := hd
  obtain ⟨hes, het⟩ := he
  simp only [occurrence_start, DateTime.le_iff_stamp, DateTime.lt_iff_stamp, DateTime.stamp_eq,
    Date.addDays_day] at hds hdt hdn hes het hen
  exact Date.ext_day (by omega)

/-- An occurrence that starts after a time is not of an earlier date. -/
theorem date_le_of_lt_start {d : Date} {t : DateTime} (h : t < (occurrence start stop d).1) :
    t.date.day ≤ d.day := by
  have ha := start.stamp_lt
  obtain ⟨hlo, -⟩ := t.stamp_bounds
  simp only [occurrence_start, DateTime.lt_iff_stamp, DateTime.stamp_eq] at h hlo
  omega

/-- The occurrence of a later date starts after a time. -/
theorem lt_start_of_date_lt (stop : Clock) {d : Date} {t : DateTime} (h : t.date.day < d.day) :
    t < (occurrence start stop d).1 := by
  obtain ⟨-, hhi⟩ := t.stamp_bounds
  simp only [occurrence_start, DateTime.lt_iff_stamp, DateTime.stamp_eq] at hhi ⊢
  omega

/-! ## Selected weekdays -/

/-- **Each weekday comes up among the next seven dates.** -/
theorem exists_weekday_ahead (d : Date) (x : Weekday) :
    ∃ n : Int, 1 ≤ n ∧ n ≤ 7 ∧ (d.addDays n).weekday = x := by
  obtain ⟨i, hi, rfl⟩ : ∃ i : Nat, i < 7 ∧ Weekday.ofIndex i = x := by
    cases x
    · exact ⟨0, by decide, rfl⟩
    · exact ⟨1, by decide, rfl⟩
    · exact ⟨2, by decide, rfl⟩
    · exact ⟨3, by decide, rfl⟩
    · exact ⟨4, by decide, rfl⟩
    · exact ⟨5, by decide, rfl⟩
    · exact ⟨6, by decide, rfl⟩
  refine ⟨1 + (i - (d.day + 4)) % 7, by omega, by omega, ?_⟩
  unfold Date.weekday
  congr 1
  rw [Date.addDays_day]
  omega

theorem selected_ne_nil (days : List String) (found : List Weekday)
    (hne : found ≠ [] ∨ days ≠ []) (h : selected days found = .ok sel) : sel ≠ [] := by
  induction days generalizing found with
  | nil =>
    obtain rfl := Except.ok.inj h
    exact hne.resolve_right (by simp)
  | cons raw rest ih =>
    unfold selected at h
    simp only at h
    cases hall : Text.sameAscii (Text.trimmed raw) "all" with
    | true =>
      rw [hall, if_pos rfl] at h
      obtain rfl := Except.ok.inj h
      exact List.cons_ne_nil _ _
    | false =>
      rw [hall, if_neg Bool.false_ne_true] at h
      cases hx : Weekday.ofName? (Text.trimmed raw) with
      | none =>
        rw [hx] at h
        cases h
      | some x =>
        rw [hx] at h
        refine ih _ (Or.inl ?_) h
        cases hc : found.contains x with
        | true =>
          rw [if_pos rfl]
          rintro rfl
          simp at hc
        | false => simp

/-- A list of days that can be read selects one. -/
theorem weekdays_ne_nil {days : List String} (h : weekdays days = .ok sel) : sel ≠ [] := by
  unfold weekdays at h
  split at h
  · cases h
  · rename_i hne
    exact selected_ne_nil days [] (Or.inr (by simpa using hne)) h

/-! ## The search -/

/-- A date whose occurrence is looked for. -/
def isSought (start stop : Clock) (sel : List Weekday) (holds : DateTime × DateTime → Bool)
    (d : Date) : Bool :=
  sel.contains d.weekday && holds (occurrence start stop d)

theorem checked_eq_ok {d : Date} (h : Date.first.day ≤ d.day ∧ d.day ≤ Date.last.day) :
    checked d = .ok d :=
  if_pos (Date.inRange_iff.mpr h)

theorem occurrenceAt_eq_ok {today : Date} {n : Int} (hlo : Date.first.day ≤ today.day + n)
    (hhi : today.day + n < Date.last.day) :
    occurrenceAt start stop today n = .ok (occurrence start stop (today.addDays n)) := by
  obtain ⟨h1, h2⟩ := occurrence_stop_date start stop (today.addDays n)
  rw [Date.addDays_day] at h1 h2
  have hd := checked_eq_ok (d := today.addDays n) (by rw [Date.addDays_day]; omega)
  have hs := checked_eq_ok (d := (occurrence start stop (today.addDays n)).2.date) (by omega)
  rw [occurrenceAt, hd, ok_bind]
  show (checked (occurrence start stop (today.addDays n)).2.date >>= fun _ =>
    (pure (occurrence start stop (today.addDays n)) : Except Flaw _)) = _
  rw [hs, ok_bind]
  rfl

/-- While the dates are in range, the search is the plain search of a list. -/
theorem firstOccurrence_eq (start stop : Clock) (sel : List Weekday) (today : Date)
    (holds : DateTime × DateTime → Bool) (ns : List Int)
    (hr : ∀ n ∈ ns, Date.first.day ≤ today.day + n ∧ today.day + n < Date.last.day) :
    firstOccurrence start stop sel today holds ns =
      .ok (((ns.map today.addDays).find? (isSought start stop sel holds)).map
        (occurrence start stop)) := by
  induction ns with
  | nil => rfl
  | cons n ns ih =>
    have ih := ih fun m hm => hr m (List.mem_cons_of_mem n hm)
    obtain ⟨hlo, hhi⟩ := hr n List.mem_cons_self
    have hd := checked_eq_ok (d := today.addDays n) (by rw [Date.addDays_day]; omega)
    unfold firstOccurrence
    rw [hd, ok_bind, occurrenceAt_eq_ok hlo hhi, ok_bind, ih, List.map_cons, List.find?_cons]
    unfold isSought
    cases sel.contains (today.addDays n).weekday with
    | false => rfl
    | true => cases holds (occurrence start stop (today.addDays n)) <;> rfl

theorem checked_ok {d e : Date} (h : checked d = .ok e) : e = d := by
  unfold checked at h
  split at h
  · exact (Except.ok.inj h).symm
  · cases h

theorem occurrenceAt_ok {today : Date} {n : Int} {bounds : DateTime × DateTime}
    (h : occurrenceAt start stop today n = .ok bounds) :
    bounds = occurrence start stop (today.addDays n) := by
  obtain ⟨d, hd, h⟩ := bind_eq_ok.mp h
  obtain rfl := checked_ok hd
  obtain ⟨last, -, h⟩ := bind_eq_ok.mp h
  exact (Except.ok.inj h).symm

/-- A search that does not leave the range of dates is the plain search of a list. -/
theorem firstOccurrence_found {today : Date} {holds : DateTime × DateTime → Bool}
    {found : Option (DateTime × DateTime)} {ns : List Int}
    (h : firstOccurrence start stop sel today holds ns = .ok found) :
    found = ((ns.map today.addDays).find? (isSought start stop sel holds)).map
      (occurrence start stop) := by
  induction ns with
  | nil => exact (Except.ok.inj h).symm
  | cons n ns ih =>
    unfold firstOccurrence at h
    rw [List.map_cons, List.find?_cons]
    unfold isSought at ih ⊢
    obtain ⟨d, hd, h⟩ := bind_eq_ok.mp h
    obtain rfl := checked_ok hd
    cases hsel : sel.contains (today.addDays n).weekday with
    | false =>
      rw [hsel, if_neg Bool.false_ne_true] at h
      exact ih h
    | true =>
      rw [hsel, if_pos rfl] at h
      obtain ⟨bounds, hbounds, h⟩ := bind_eq_ok.mp h
      obtain rfl := occurrenceAt_ok hbounds
      cases hholds : holds (occurrence start stop (today.addDays n)) with
      | true =>
        rw [hholds, if_pos rfl] at h
        exact (Except.ok.inj h).symm
      | false =>
        rw [hholds, if_neg Bool.false_ne_true] at h
        exact ih h

/-- In a list of rising dates, the first one sought is the least one sought. -/
theorem le_of_find?_eq_some {p : Date → Bool} : ∀ {ds : List Date} {d : Date},
    ds.Pairwise (fun a b => a.day ≤ b.day) → ds.find? p = some d →
      ∀ e ∈ ds, p e = true → d.day ≤ e.day
  | c :: ds, d, hs, h, e, he, hp => by
    rw [List.pairwise_cons] at hs
    rw [List.find?_cons] at h
    split at h
    · obtain rfl := Option.some.inj h
      rcases List.mem_cons.mp he with rfl | he
      · exact Int.le_refl _
      · exact hs.1 e he
    · rename_i hc
      rcases List.mem_cons.mp he with rfl | he
      · exact absurd hp (by rw [hc]; exact Bool.false_ne_true)
      · exact le_of_find?_eq_some hs.2 h e he hp

/-- An occurrence well inside the range of dates lies between two instants. -/
theorem instants_eq_ok (start stop : Clock) (o : Offset) (active : Bool) {d : Date}
    (hfirst : Date.first.day + 1 ≤ d.day) (hlast : d.day ≤ Date.last.day - 2) :
    ∃ win, instants o active (occurrence start stop d) = .ok win ∧ win.active = active ∧
      win.Shows o (occurrence start stop d) := by
  obtain ⟨h1, h2⟩ := occurrence_stop_date start stop d
  have hstart : (occurrence start stop d).1.date.day = d.day := rfl
  obtain ⟨i, hi⟩ := o.instant?_isSome (t := (occurrence start stop d).1) (by omega) (by omega)
  obtain ⟨j, hj⟩ := o.instant?_isSome (t := (occurrence start stop d).2) (by omega) (by omega)
  refine ⟨⟨active, i, j⟩, ?_, rfl, Offset.localTime_instant hi ?_, Offset.localTime_instant hj ?_⟩
  · unfold instants
    rw [hi, hj]
  · rw [DateTime.inRange, Date.inRange_iff]
    omega
  · rw [DateTime.inRange, Date.inRange_iff]
    omega

/-- An occurrence that is sought, as a proposition. -/
theorem isSought_iff {holds : DateTime × DateTime → Bool} {d : Date} :
    isSought start stop sel holds d = true ↔
      d.weekday ∈ sel ∧ holds (occurrence start stop d) = true := by
  simp [isSought]

theorem mem_dates_iff {today d : Date} {ns : List Int} :
    d ∈ ns.map today.addDays ↔ d.day - today.day ∈ ns := by
  rw [List.mem_map]
  constructor
  · rintro ⟨n, hn, rfl⟩
    have hday : (today.addDays n).day - today.day = n := by rw [Date.addDays_day]; omega
    rwa [hday]
  · intro h
    refine ⟨_, h, Date.ext_day ?_⟩
    rw [Date.addDays_day]
    omega

theorem pairwise_dates (today : Date) {ns : List Int} (h : ns.Pairwise (· ≤ ·)) :
    (ns.map today.addDays).Pairwise fun a b => a.day ≤ b.day := by
  rw [List.pairwise_map]
  refine h.imp fun {m n} hmn => ?_
  rw [Date.addDays_day, Date.addDays_day]
  omega

/-! ## The window -/

/-- The occurrence that starts first after a local time, over all dates. -/
structure Upcoming (start stop : Clock) (sel : List Weekday) (t : DateTime) (d : Date) : Prop where
  selected : d.weekday ∈ sel
  later : t < (occurrence start stop d).1
  least : ∀ e : Date, e.weekday ∈ sel → t < (occurrence start stop e).1 →
    (occurrence start stop d).1 ≤ (occurrence start stop e).1

/-- The search of today and yesterday finds the occurrence that covers a time, if there is one. -/
theorem find?_covering (start stop : Clock) (sel : List Weekday) (t : DateTime) :
    (∃ d, ([0, -1].map t.date.addDays).find?
        (isSought start stop sel fun (lo, hi) => lo ≤ t ∧ t < hi) = some d ∧
      d.weekday ∈ sel ∧ Covers start stop d t) ∨
    (([0, -1].map t.date.addDays).find?
        (isSought start stop sel fun (lo, hi) => lo ≤ t ∧ t < hi) = none ∧
      ∀ d : Date, d.weekday ∈ sel → ¬ Covers start stop d t) := by
  cases hf : ([0, -1].map t.date.addDays).find?
      (isSought start stop sel fun (lo, hi) => lo ≤ t ∧ t < hi) with
  | some d =>
    obtain ⟨hsel, hcov⟩ := isSought_iff.mp (List.find?_some hf)
    exact Or.inl ⟨d, rfl, hsel, of_decide_eq_true hcov⟩
  | none =>
    refine Or.inr ⟨rfl, fun d hsel hcov => ?_⟩
    rw [List.find?_eq_none] at hf
    refine hf d ?_ (isSought_iff.mpr ⟨hsel, decide_eq_true hcov⟩)
    rw [mem_dates_iff]
    rcases hcov.date with rfl | hd
    · simp
    · have : d.day = t.date.day + -1 := by rw [hd, Date.addDays_day]
      simp only [List.mem_cons, List.not_mem_nil, or_false]
      omega

/-- The search of the next week finds the occurrence that starts first after a time. -/
theorem find?_upcoming (start stop : Clock) (hsel : sel ≠ []) (t : DateTime) :
    ∃ d, ([0, 1, 2, 3, 4, 5, 6, 7].map t.date.addDays).find?
        (isSought start stop sel fun (lo, _) => t < lo) = some d ∧
      Upcoming start stop sel t d ∧ t.date.day ≤ d.day ∧ d.day ≤ t.date.day + 7 := by
  have hweek : ∀ e : Date, t.date.day ≤ e.day → e.day ≤ t.date.day + 7 →
      e ∈ [0, 1, 2, 3, 4, 5, 6, 7].map t.date.addDays := by
    intro e hlo hhi
    rw [mem_dates_iff]
    simp only [List.mem_cons, List.not_mem_nil, or_false]
    omega
  cases hf : ([0, 1, 2, 3, 4, 5, 6, 7].map t.date.addDays).find?
      (isSought start stop sel fun (lo, _) => t < lo) with
  | none =>
    obtain ⟨x, hx⟩ := List.exists_mem_of_ne_nil sel hsel
    obtain ⟨n, hlo, hhi, hn⟩ := exists_weekday_ahead t.date x
    rw [List.find?_eq_none] at hf
    refine absurd (isSought_iff.mpr ⟨hn ▸ hx, decide_eq_true ?_⟩)
      (hf (t.date.addDays n) (hweek _ ?_ ?_))
    · exact lt_start_of_date_lt stop (by rw [Date.addDays_day]; omega)
    · rw [Date.addDays_day]; omega
    · rw [Date.addDays_day]; omega
  | some d =>
    obtain ⟨hd, hlater⟩ := isSought_iff.mp (List.find?_some hf)
    have hmem := mem_dates_iff.mp (List.mem_of_find?_eq_some hf)
    simp only [List.mem_cons, List.not_mem_nil, or_false] at hmem
    refine ⟨d, rfl, ⟨hd, of_decide_eq_true hlater, fun e he hlt => ?_⟩, by omega, by omega⟩
    rw [occurrence_start_le_iff]
    have hte := date_le_of_lt_start hlt
    by_cases hfar : e.day ≤ t.date.day + 7
    · exact le_of_find?_eq_some (pairwise_dates t.date (by decide)) hf e (hweek e hte hfar)
        (isSought_iff.mpr ⟨he, decide_eq_true hlt⟩)
    · omega

section Found

variable {w : Weekly} {o : Offset} {now t : Instant} {win win' : Window}

/-- The bounds of an occurrence, at UTC. -/
theorem instants_ok {active : Bool} {bounds : DateTime × DateTime}
    (h : instants o active bounds = .ok win) :
    win.active = active ∧ win.start.utc = bounds.1.addSeconds (-o.seconds) ∧
      win.stop.utc = bounds.2.addSeconds (-o.seconds) := by
  have hinstant : ∀ {b : DateTime} {i : Instant}, o.instant? b = some i →
      i.utc = b.addSeconds (-o.seconds) := by
    intro b i hi
    unfold Offset.instant? at hi
    simp only at hi
    split at hi
    · obtain rfl := Option.some.inj hi
      rfl
    · cases hi
  unfold instants at h
  split at h
  · rename_i hlo hhi
    obtain rfl := Except.ok.inj h
    exact ⟨rfl, hinstant hlo, hinstant hhi⟩
  · cases h
  · cases h

/-- An instant lies in an occurrence exactly when the clock shows a time that does. -/
theorem contains_iff_shown {active : Bool} {bounds : DateTime × DateTime} {shown : DateTime}
    (h : instants o active bounds = .ok win) (ht : o.localTime t = .ok shown) :
    win.Contains t ↔ bounds.1 ≤ shown ∧ shown < bounds.2 := by
  obtain ⟨-, hstart, hstop⟩ := instants_ok h
  obtain ⟨rfl, -⟩ := Offset.localTime_eq_ok.mp ht
  unfold Window.Contains
  rw [Instant.le_iff_utc, Instant.lt_iff_utc, hstart, hstop, ← DateTime.addSeconds_le_iff,
    ← DateTime.addSeconds_lt_iff (a := t.utc), DateTime.addSeconds_neg_addSeconds,
    DateTime.addSeconds_neg_addSeconds]

/-- **What a window of a weekly timing is**, at any instant for which there is one: the occurrence
that covers the local time, or one that starts later when none does. -/
theorem window_found (h : w.window o now = .ok win) :
    ∃ sel start stop shown, weekdays w.days = .ok sel ∧ clock w.startTime = .ok start ∧
      clock w.endTime = .ok stop ∧ o.localTime now = .ok shown ∧
      ((∃ d : Date, d.weekday ∈ sel ∧ Covers start stop d shown ∧
          instants o true (occurrence start stop d) = .ok win) ∨
        ((∀ d : Date, d.weekday ∈ sel → ¬ Covers start stop d shown) ∧
          ∃ d, shown < (occurrence start stop d).1 ∧
            instants o false (occurrence start stop d) = .ok win)) := by
  obtain ⟨sel, hdays, h⟩ := bind_eq_ok.mp h
  obtain ⟨start, hstart, h⟩ := bind_eq_ok.mp h
  obtain ⟨stop, hstop, h⟩ := bind_eq_ok.mp h
  obtain ⟨shown, hshown, h⟩ := bind_eq_ok.mp h
  obtain ⟨current, hcurrent, h⟩ := bind_eq_ok.mp h
  refine ⟨sel, start, stop, shown, hdays, hstart, hstop, mapError_eq_ok.mp hshown, ?_⟩
  obtain rfl := firstOccurrence_found hcurrent
  rcases find?_covering start stop sel shown with ⟨d, hf, hd, hcovers⟩ | ⟨hf, hnone⟩
  · rw [hf, Option.map_some] at h
    exact Or.inl ⟨d, hd, hcovers, h⟩
  · rw [hf, Option.map_none] at h
    obtain ⟨next, hnext, h⟩ := bind_eq_ok.mp h
    obtain rfl := firstOccurrence_found hnext
    refine Or.inr ⟨hnone, ?_⟩
    cases hf' : ([0, 1, 2, 3, 4, 5, 6, 7].map shown.date.addDays).find?
        (isSought start stop sel fun (lo, _) => shown < lo) with
    | none =>
      simp only [hf', Option.map_none] at h
      cases h
    | some d =>
      simp only [hf', Option.map_some] at h
      obtain ⟨-, hlater⟩ := isSought_iff.mp (List.find?_some hf')
      exact ⟨d, of_decide_eq_true hlater, h⟩

/-- **The window is open exactly when it contains the instant.** -/
theorem window_active_iff (h : w.window o now = .ok win) :
    win.active = true ↔ win.Contains now := by
  obtain ⟨sel, start, stop, shown, -, -, -, hshown, ⟨d, -, hcovers, hwin⟩ | ⟨-, d, hlater, hwin⟩⟩ :=
    window_found h
  · exact iff_of_true (instants_ok hwin).1 ((contains_iff_shown hwin hshown).mpr hcovers)
  · rw [(instants_ok hwin).1, contains_iff_shown hwin hshown]
    refine iff_of_false Bool.false_ne_true fun hcontains => ?_
    rw [DateTime.le_iff_stamp] at hcontains
    exact Int.not_le.mpr (DateTime.lt_iff_stamp.mp hlater) hcontains.1

/-- **An open window lasts**: at every instant that it contains, there is no other one. -/
theorem window_lasts (h : w.window o now = .ok win) (hopen : win.active = true)
    (ht : win.Contains t) (h' : w.window o t = .ok win') : win' = win := by
  obtain ⟨sel, start, stop, shown, hdays, hstart, hstop, -, hcases⟩ := window_found h
  obtain ⟨sel', start', stop', shown', hdays', hstart', hstop', hshown', hcases'⟩ := window_found h'
  obtain rfl := Except.ok.inj (hdays.symm.trans hdays')
  obtain rfl := Except.ok.inj (hstart.symm.trans hstart')
  obtain rfl := Except.ok.inj (hstop.symm.trans hstop')
  rcases hcases with ⟨d, hd, -, hwin⟩ | ⟨-, d, -, hwin⟩
  · have hcovers : Covers start stop d shown' := (contains_iff_shown hwin hshown').mp ht
    rcases hcases' with ⟨e, -, hcovers', hwin'⟩ | ⟨hnone, -⟩
    · obtain rfl := occurrence_unique hcovers hcovers'
      exact Except.ok.inj (hwin'.symm.trans hwin)
    · exact absurd hcovers (hnone d hd)
  · rw [(instants_ok hwin).1] at hopen
    cases hopen

end Found

section Window

variable {w : Weekly} (hdays : weekdays w.days = .ok sel) (hstart : clock w.startTime = .ok start)
  (hstop : clock w.endTime = .ok stop) (o : Offset) {now : Instant} (hnow : now.isInner)

include hdays hstart hstop hnow

/-- **A weekly timing has a window** ten days inside the range of dates: the occurrence that covers
the local time, or the upcoming one when none does. -/
theorem window_cases : ∃ shown win, o.localTime now = .ok shown ∧ w.window o now = .ok win ∧
    ((win.active = true ∧
        ∃ d, d.weekday ∈ sel ∧ Covers start stop d shown ∧ win.Shows o (occurrence start stop d)) ∨
      (win.active = false ∧ (∀ d : Date, d.weekday ∈ sel → ¬ Covers start stop d shown) ∧
        ∃ d, Upcoming start stop sel shown d ∧ win.Shows o (occurrence start stop d))) := by
  obtain ⟨shown, hshown, hlo, hhi⟩ := o.localTime_of_isInner hnow
  have hcurrent := firstOccurrence_eq start stop sel shown.date
    (fun (lo, hi) => lo ≤ shown ∧ shown < hi) [0, -1] (by
      simp only [List.mem_cons, List.not_mem_nil, or_false]
      omega)
  have hnext := firstOccurrence_eq start stop sel shown.date
    (fun (lo, _) => shown < lo) [0, 1, 2, 3, 4, 5, 6, 7] (by
      simp only [List.mem_cons, List.not_mem_nil, or_false]
      omega)
  refine ⟨shown, ?_⟩
  unfold window
  rw [hdays, ok_bind, hstart, ok_bind, hstop, ok_bind, hshown, mapError_ok, ok_bind, hcurrent,
    ok_bind]
  rcases find?_covering start stop sel shown with ⟨d, hf, hd, hcov⟩ | ⟨hf, hnone⟩
  · have hday : d.day = shown.date.day ∨ d.day = shown.date.day + -1 := by
      rcases hcov.date with rfl | rfl
      · exact Or.inl rfl
      · exact Or.inr rfl
    have hfirst : Date.first.day + 1 ≤ d.day := by omega
    have hlast : d.day ≤ Date.last.day - 2 := by omega
    obtain ⟨win, hwin, hactive, hshows⟩ :=
      instants_eq_ok start stop o true hfirst hlast
    rw [hf]
    exact ⟨win, rfl, hwin, Or.inl ⟨hactive, d, hd, hcov, hshows⟩⟩
  · obtain ⟨d, hf', hup, hdlo, hdhi⟩ :=
      find?_upcoming start stop (weekdays_ne_nil hdays) shown
    have hfirst : Date.first.day + 1 ≤ d.day := by omega
    have hlast : d.day ≤ Date.last.day - 2 := by omega
    obtain ⟨win, hwin, hactive, hshows⟩ :=
      instants_eq_ok start stop o false hfirst hlast
    rw [hf]
    refine ⟨win, rfl, ?_, Or.inr ⟨hactive, hnone, d, hup, hshows⟩⟩
    simp only [Option.map_none, hnext, ok_bind, hf', Option.map_some]
    exact hwin

end Window

/-- A shift on the nights after Monday and Thursday, two hours ahead of UTC. -/
def nightShift : Weekly where
  days := ["mon", "thursday"]
  startTime := "22:00"
  endTime := "06:00"
  once := false
  timeZone := some "+02:00"

/-- Two hours ahead of UTC. -/
def nightOffset : Offset :=
  { seconds := 7200 }

end Weekly

end PeriodScaler
