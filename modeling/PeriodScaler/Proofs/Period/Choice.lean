import PeriodScaler.Period.Resolution
import PeriodScaler.Proofs.Period.Windows

/-!
# The period that is chosen

`Chosen` says which period is chosen, without a scan: the default one on request, else what the
first entry that is not closed decides, else the default one. An entry is closed when its window is
known and does not contain the instant. An entry without a window is not closed, so it decides, and
the choice fails with its name.

* **`firstActive_append_eq`**: what the entries in front decide counts, and else what the others do.
* **`chosen_iff`**: the scan finds what is chosen, and nothing else is.
* **`Chosen.contains`**: a chosen period is open, the default one included.
* **`resolve_reference`**: the answer that follows from what is chosen, and when there is none: a
  time zone text that is cut inside a character takes the answer from the entry that decides.
-/

namespace PeriodScaler

variable {now : Instant} {d : Declaration} {ds before after : List Declaration}

/-! ## Entries -/

namespace Declaration

/-- The period of a declaration with its window. -/
def period (d : Declaration) (w : Window) : Period :=
  ⟨d.name, d.target, w, d.timing.once, d.fingerprint⟩

/-- The window of a declaration is known and does not contain the instant. -/
def IsClosed (now : Instant) (d : Declaration) : Prop :=
  ∃ w, d.timing.window now = .ok w ∧ ¬ w.Contains now

/-- The timing of the default period. -/
def allDay : Weekly :=
  ⟨["all"], "00:00", "00:00", false, none⟩

theorem defaultRestore_timing : defaultRestore.timing = .recurring allDay := rfl

theorem mem_all (x : Weekday) : x ∈ Weekday.all := by
  cases x <;> decide

/-- From midnight to midnight, the occurrence of a date covers every time of it. -/
theorem covers_date (t : DateTime) : Weekly.Covers .midnight .midnight t.date t := by
  obtain ⟨hlo, hhi⟩ := t.stamp_bounds
  have hstop : (Weekly.occurrence .midnight .midnight t.date).2 =
      ⟨t.date.addDays 1, .midnight⟩ := by
    have hirrefl : ¬ Clock.midnight < Clock.midnight := Nat.lt_irrefl _
    rw [Weekly.occurrence, if_neg hirrefl]
  have hzero : Clock.midnight.stamp = 0 := rfl
  refine ⟨?_, ?_⟩
  · rw [Weekly.occurrence_start, DateTime.le_iff_stamp, DateTime.stamp_eq]
    simp only [hzero]
    omega
  · rw [hstop, DateTime.lt_iff_stamp, DateTime.stamp_eq ⟨t.date.addDays 1, .midnight⟩]
    simp only [hzero, Date.addDays_day]
    omega

/-- Around the clock, the default period is open. -/
theorem defaultRestore_window (hnow : now.isInner) :
    ∃ w, defaultRestore.timing.window now = .ok w ∧ w.Contains now := by
  have hdays : Weekly.weekdays allDay.days = .ok Weekday.all := by decide
  have hstart : Weekly.clock allDay.startTime = .ok .midnight := by decide
  have hstop : Weekly.clock allDay.endTime = .ok .midnight := by decide
  have hzone : Zone.offset allDay.timeZone = .ok .utc := by decide
  obtain ⟨shown, w, hshown, hw, hcases⟩ := Weekly.window_cases hdays hstart hstop .utc hnow
  refine ⟨w, ?_, (Weekly.window_active_iff hw).mp ?_⟩
  · rw [defaultRestore_timing, Timing.recurring_window hzone]
    exact hw
  rcases hcases with ⟨hactive, -⟩ | ⟨-, hnone, -⟩
  · exact hactive
  · exact absurd (covers_date shown) (hnone shown.date (mem_all _))

end Declaration

/-- The default period is neither one-shot nor idle. -/
theorem evaluate_defaultRestore {p : Period}
    (h : Period.evaluate .defaultRestore now = .ok p) : p.once = false ∧ p.target = .restore := by
  unfold Period.evaluate at h
  split at h
  · obtain rfl := Except.ok.inj h
    exact ⟨rfl, rfl⟩
  · cases h

/-! ## The choice -/

/-- Which period is chosen: the scan, told without one. -/
inductive Chosen (now : Instant) : Bool → List Declaration → Except PeriodError Period → Prop where
  | requested {ds w} (hw : Declaration.defaultRestore.timing.window now = .ok w) :
    Chosen now true ds (.ok (Declaration.defaultRestore.period w))
  | default {ds w} (hclosed : ∀ d ∈ ds, d.IsClosed now)
    (hw : Declaration.defaultRestore.timing.window now = .ok w) :
    Chosen now false ds (.ok (Declaration.defaultRestore.period w))
  | opened {before d after w} (hclosed : ∀ e ∈ before, Declaration.IsClosed now e)
    (hw : d.timing.window now = .ok w) (hopen : w.Contains now) :
    Chosen now false (before ++ d :: after) (.ok (d.period w))
  | flawed {before d after flaw} (hclosed : ∀ e ∈ before, Declaration.IsClosed now e)
    (hflaw : d.timing.window now = .error flaw) :
    Chosen now false (before ++ d :: after) (.error (.invalid d.name flaw))

theorem evaluate_ok {w : Window} (h : d.timing.window now = .ok w) :
    Period.evaluate d now = .ok (d.period w) := by
  unfold Period.evaluate
  rw [h]
  rfl

theorem evaluate_error {flaw : Flaw} (h : d.timing.window now = .error flaw) :
    Period.evaluate d now = .error (.invalid d.name flaw) := by
  unfold Period.evaluate
  rw [h]

/-- What the entries in front decide counts, and else what the others do. -/
theorem firstActive_append_eq : ∀ before : List Declaration,
    firstActive now (before ++ ds) = firstActive now before >>= fun found =>
      match found with
      | some p => .ok (some p)
      | none => firstActive now ds
  | [] => rfl
  | e :: before => by
    rw [List.cons_append, firstActive, firstActive]
    cases hw : e.timing.window now with
    | error flaw => rw [evaluate_error hw, error_bind, error_bind, error_bind]
    | ok w =>
      rw [evaluate_ok hw, ok_bind, ok_bind, firstActive_append_eq before]
      cases hactive : (e.period w).window.active <;> rfl

/-- Closed entries in front are passed over. -/
theorem firstActive_append : ∀ {before : List Declaration},
    (∀ e ∈ before, Declaration.IsClosed now e) → firstActive now (before ++ ds) = firstActive now ds
  | [], _ => rfl
  | e :: before, h => by
    obtain ⟨w, hw, hclosed⟩ := h e List.mem_cons_self
    have hidle : w.active = false := by
      rw [← Bool.not_eq_true, Timing.window_active_iff hw]
      exact hclosed
    rw [List.cons_append, firstActive, evaluate_ok hw, ok_bind, Declaration.period]
    simp only
    rw [hidle, if_neg Bool.false_ne_true]
    exact firstActive_append fun x hx => h x (List.mem_cons_of_mem e hx)

theorem firstActive_open {w : Window} (hw : d.timing.window now = .ok w)
    (hopen : w.Contains now) : firstActive now (d :: ds) = .ok (some (d.period w)) := by
  have hactive := (Timing.window_active_iff hw).mpr hopen
  rw [firstActive, evaluate_ok hw, ok_bind, Declaration.period]
  simp only
  rw [hactive, if_pos rfl]
  rfl

theorem firstActive_flawed {flaw : Flaw} (h : d.timing.window now = .error flaw) :
    firstActive now (d :: ds) = .error (.invalid d.name flaw) := by
  rw [firstActive, evaluate_error h, error_bind]

/-- All entries are closed, or the first that is not decides. -/
theorem closed_or_decides (now : Instant) : ∀ ds : List Declaration,
    (∀ d ∈ ds, d.IsClosed now) ∨ ∃ before d after, ds = before ++ d :: after ∧
      (∀ e ∈ before, Declaration.IsClosed now e) ∧ ¬ d.IsClosed now
  | [] => Or.inl fun _ h => absurd h List.not_mem_nil
  | d :: ds => by
    by_cases hd : d.IsClosed now
    · rcases closed_or_decides now ds with h | ⟨before, e, after, rfl, hbefore, he⟩
      · exact Or.inl (List.forall_mem_cons.mpr ⟨hd, h⟩)
      · exact Or.inr ⟨d :: before, e, after, rfl, List.forall_mem_cons.mpr ⟨hd, hbefore⟩, he⟩
    · exact Or.inr ⟨[], d, ds, rfl, fun _ h => absurd h List.not_mem_nil, hd⟩

/-- There is no active period when all entries are closed. -/
theorem firstActive_eq_none : firstActive now ds = .ok none ↔ ∀ d ∈ ds, d.IsClosed now := by
  constructor
  · intro h
    rcases closed_or_decides now ds with hclosed | ⟨before, d, after, rfl, hbefore, hd⟩
    · exact hclosed
    · rw [firstActive_append hbefore] at h
      cases hw : d.timing.window now with
      | error flaw =>
        rw [firstActive_flawed hw] at h
        cases h
      | ok w =>
        by_cases hopen : w.Contains now
        · rw [firstActive_open hw hopen] at h
          cases h
        · exact absurd ⟨w, hw, hopen⟩ hd
  · intro hclosed
    rw [← List.append_nil ds, firstActive_append hclosed]
    rfl

/-- The first active period is that of an entry which is open while those before it are closed. -/
theorem firstActive_eq_some {p : Period} : firstActive now ds = .ok (some p) ↔
    ∃ before d after w, ds = before ++ d :: after ∧
      (∀ e ∈ before, Declaration.IsClosed now e) ∧ d.timing.window now = .ok w ∧
      w.Contains now ∧ p = d.period w := by
  constructor
  · intro h
    rcases closed_or_decides now ds with hclosed | ⟨before, d, after, rfl, hbefore, hd⟩
    · cases h.symm.trans (firstActive_eq_none.mpr hclosed)
    · rw [firstActive_append hbefore] at h
      cases hw : d.timing.window now with
      | error flaw =>
        rw [firstActive_flawed hw] at h
        cases h
      | ok w =>
        have hopen : w.Contains now := by
          by_contra hclosed
          exact hd ⟨w, hw, hclosed⟩
        rw [firstActive_open hw hopen] at h
        exact ⟨before, d, after, w, rfl, hbefore, hw, hopen,
          (Option.some.inj (Except.ok.inj h)).symm⟩
  · rintro ⟨before, d, after, w, rfl, hbefore, hw, hopen, rfl⟩
    rw [firstActive_append hbefore, firstActive_open hw hopen]

/-- The choice that `resolve` makes before it looks at the record. -/
def choice (ds : List Declaration) (restoreRequested : Bool) (now : Instant) :
    Except PeriodError Period := do
  let restore ← Period.evaluate .defaultRestore now
  if restoreRequested then pure restore
  else (firstActive now ds).map fun found => found.getD restore

theorem firstActive_error {e : PeriodError} (h : firstActive now ds = .error e) :
    ∃ name flaw, e = .invalid name flaw := by
  induction ds with
  | nil => cases h
  | cons d ds ih =>
    cases hw : d.timing.window now with
    | error flaw =>
      rw [firstActive_flawed hw] at h
      exact ⟨d.name, flaw, (Except.error.inj h).symm⟩
    | ok w =>
      rw [firstActive, evaluate_ok hw, ok_bind] at h
      by_cases hactive : (d.period w).window.active = true
      · rw [if_pos hactive] at h
        cases h
      · rw [if_neg hactive] at h
        exact ih h

/-- A choice fails only for a flawed entry. -/
theorem choice_error {requested : Bool} {e : PeriodError} (h : choice ds requested now = .error e) :
    ∃ name flaw, e = .invalid name flaw := by
  unfold choice at h
  cases hw : Declaration.defaultRestore.timing.window now with
  | error flaw =>
    rw [evaluate_error hw, error_bind] at h
    exact ⟨_, flaw, (Except.error.inj h).symm⟩
  | ok w =>
    rw [evaluate_ok hw, ok_bind] at h
    cases requested with
    | true => cases h
    | false =>
      cases hfirst : firstActive now ds with
      | error e' =>
        rw [hfirst] at h
        obtain rfl := Except.error.inj h
        exact firstActive_error hfirst
      | ok found =>
        rw [hfirst] at h
        cases h

/-- What is chosen is the first active period, or the default one. -/
theorem choice_eq_ok {p : Period} (h : choice ds false now = .ok p) :
    firstActive now ds = .ok (some p) ∨ Period.evaluate .defaultRestore now = .ok p := by
  obtain ⟨restore, hrestore, h⟩ := bind_eq_ok.mp h
  cases hfirst : firstActive now ds with
  | error e =>
    rw [hfirst] at h
    cases h
  | ok found =>
    rw [hfirst] at h
    cases found with
    | some q =>
      obtain rfl : q = p := Except.ok.inj h
      exact Or.inl rfl
    | none =>
      obtain rfl : restore = p := Except.ok.inj h
      exact Or.inr hrestore

section Inner

variable (hnow : now.isInner) {requested : Bool} {c : Except PeriodError Period}

include hnow

/-- The default period is always there to fall back on. -/
theorem choice_eq (ds : List Declaration) (requested : Bool) :
    ∃ w, Declaration.defaultRestore.timing.window now = .ok w ∧ w.Contains now ∧
      choice ds requested now =
        if requested then .ok (Declaration.defaultRestore.period w)
        else (firstActive now ds).map fun found =>
          found.getD (Declaration.defaultRestore.period w) := by
  obtain ⟨w, hw, hopen⟩ := Declaration.defaultRestore_window hnow
  refine ⟨w, hw, hopen, ?_⟩
  unfold choice
  rw [evaluate_ok hw, ok_bind]
  rfl

theorem Chosen.eq_choice (h : Chosen now requested ds c) : c = choice ds requested now := by
  obtain ⟨v, hv, -, hchoice⟩ := choice_eq hnow ds requested
  rw [hchoice]
  cases h with
  | requested hw =>
    obtain rfl := Except.ok.inj (hw.symm.trans hv)
    rfl
  | default hclosed hw =>
    obtain rfl := Except.ok.inj (hw.symm.trans hv)
    rw [firstActive_eq_none.mpr hclosed]
    rfl
  | opened hclosed hw hopen =>
    rw [firstActive_append hclosed, firstActive_open hw hopen]
    rfl
  | flawed hclosed hflaw =>
    rw [firstActive_append hclosed, firstActive_flawed hflaw]
    rfl

theorem exists_chosen (ds : List Declaration) (requested : Bool) :
    ∃ c, Chosen now requested ds c := by
  obtain ⟨w, hw, -⟩ := Declaration.defaultRestore_window hnow
  cases requested with
  | true => exact ⟨_, .requested hw⟩
  | false =>
    rcases closed_or_decides now ds with hclosed | ⟨before, d, after, rfl, hbefore, hd⟩
    · exact ⟨_, .default hclosed hw⟩
    · cases hwin : d.timing.window now with
      | error flaw => exact ⟨_, .flawed hbefore hwin⟩
      | ok win =>
        by_cases hopen : win.Contains now
        · exact ⟨_, .opened hbefore hwin hopen⟩
        · exact absurd ⟨win, hwin, hopen⟩ hd

/-- **The scan finds what is chosen**, and nothing else is. -/
theorem chosen_iff : Chosen now requested ds c ↔ c = choice ds requested now := by
  refine ⟨Chosen.eq_choice hnow, ?_⟩
  rintro rfl
  obtain ⟨c, hc⟩ := exists_chosen hnow ds requested
  exact hc.eq_choice hnow ▸ hc

/-- **A chosen period is open.** -/
theorem Chosen.contains {p : Period} (h : Chosen now requested ds (.ok p)) :
    p.window.Contains now := by
  obtain ⟨v, hv, hopen, -⟩ := choice_eq hnow ds requested
  cases h with
  | requested hw =>
    obtain rfl := Except.ok.inj (hw.symm.trans hv)
    exact hopen
  | default hclosed hw =>
    obtain rfl := Except.ok.inj (hw.symm.trans hv)
    exact hopen
  | opened hclosed hw hopen => exact hopen

/-- The choice is left without an answer exactly when the time zone text of the deciding entry is
cut inside a character. -/
theorem choice_fault_iff (ds : List Declaration) (requested : Bool) :
    (∃ e f, choice ds requested now = .error e ∧ e.fault? = some f) ↔
      requested = false ∧ ∃ before d after, ds = before ++ d :: after ∧
        (∀ e ∈ before, Declaration.IsClosed now e) ∧ Zone.CutsCharacter d.timing.timeZone := by
  constructor
  · rintro ⟨e, f, he, hf⟩
    have hchosen := (chosen_iff hnow).mpr he.symm
    cases hchosen with
    | flawed hclosed hflaw =>
      exact ⟨rfl, _, _, _, rfl, hclosed, (Timing.window_fault_iff hnow).mp ⟨_, f, hflaw, hf⟩⟩
  · rintro ⟨rfl, before, d, after, rfl, hclosed, hcut⟩
    obtain ⟨flaw, f, hflaw, hf⟩ := (Timing.window_fault_iff hnow).mpr hcut
    exact ⟨_, f, ((Chosen.flawed hclosed hflaw).eq_choice hnow).symm, hf⟩

end Inner

/-! ## The answer -/

/-- A period is one-shot and the record has its fingerprint. -/
def Period.HasRun (p : Period) (previous : Option PassRecord) : Prop :=
  p.once = true ∧ ∃ r, previous = some r ∧ r.fingerprint = p.fingerprint

theorem Period.hasRun_iff {p : Period} {previous : Option PassRecord} :
    p.HasRun previous ↔ (p.once && p.isRecorded previous) = true := by
  unfold HasRun isRecorded
  cases previous with
  | none => simp
  | some r => simp

theorem Resolution.isIdle_iff {r : Resolution} :
    r.isIdle = true ↔
      r.period.target = .noAction ∧ ∃ q, r.previous = some q ∧ q.target = .noAction := by
  unfold isIdle
  cases r.previous <;> simp

theorem resolve_eq (ds : List Declaration) (previous : Option PassRecord) (requested : Bool)
    (now : Instant) : resolve ds previous requested now =
      choice ds requested now >>= fun p =>
        if p.once && p.isRecorded previous then .error (.alreadyRun p)
        else .ok ⟨p, previous, p.snapshot⟩ := by
  unfold resolve choice
  cases Period.evaluate .defaultRestore now with
  | error e => rfl
  | ok restore => cases requested <;> rfl

section Answer

variable {previous : Option PassRecord} {requested : Bool}

theorem resolve_of_choice_error {e : PeriodError} (h : choice ds requested now = .error e) :
    resolve ds previous requested now = .error e := by
  rw [resolve_eq, h, error_bind]

theorem resolve_of_hasRun {p : Period} (h : choice ds requested now = .ok p)
    (hrun : p.HasRun previous) : resolve ds previous requested now = .error (.alreadyRun p) := by
  rw [resolve_eq, h, ok_bind, if_pos (Period.hasRun_iff.mp hrun)]

theorem resolve_of_not_hasRun {p : Period} (h : choice ds requested now = .ok p)
    (hrun : ¬ p.HasRun previous) :
    resolve ds previous requested now = .ok ⟨p, previous, p.snapshot⟩ := by
  rw [resolve_eq, h, ok_bind, if_neg (mt Period.hasRun_iff.mpr hrun)]

/-- The choice never fails because a period has run. -/
theorem choice_ne_alreadyRun (hnow : now.isInner) {p : Period} :
    choice ds requested now ≠ .error (.alreadyRun p) := by
  intro h
  have hchosen := (chosen_iff hnow).mpr h.symm
  cases hchosen

theorem resolve_eq_alreadyRun_iff (hnow : now.isInner) {p : Period} :
    resolve ds previous requested now = .error (.alreadyRun p) ↔
      choice ds requested now = .ok p ∧ p.HasRun previous := by
  constructor
  · intro h
    cases hc : choice ds requested now with
    | error e =>
      rw [resolve_of_choice_error hc] at h
      obtain rfl := Except.error.inj h
      exact absurd hc (choice_ne_alreadyRun hnow)
    | ok q =>
      by_cases hrun : q.HasRun previous
      · rw [resolve_of_hasRun hc hrun] at h
        obtain rfl := PeriodError.alreadyRun.inj (Except.error.inj h)
        exact ⟨rfl, hrun⟩
      · rw [resolve_of_not_hasRun hc hrun] at h
        cases h
  · rintro ⟨hc, hrun⟩
    exact resolve_of_hasRun hc hrun

/-- A period that has run is declared: the default one never has. -/
theorem firstActive_of_alreadyRun {p : Period}
    (h : resolve ds previous false now = .error (.alreadyRun p)) :
    p.HasRun previous ∧ firstActive now ds = .ok (some p) := by
  cases hc : choice ds false now with
  | error e =>
    obtain ⟨name, flaw, rfl⟩ := choice_error hc
    rw [resolve_of_choice_error hc] at h
    cases h
  | ok q =>
    by_cases hrun : q.HasRun previous
    · rw [resolve_of_hasRun hc hrun] at h
      obtain rfl := PeriodError.alreadyRun.inj (Except.error.inj h)
      rcases choice_eq_ok hc with hfirst | hrestore
      · exact ⟨hrun, hfirst⟩
      · cases (evaluate_defaultRestore hrestore).1.symm.trans hrun.1
    · rw [resolve_of_not_hasRun hc hrun] at h
      cases h

theorem resolve_eq_ok_iff {r : Resolution} :
    resolve ds previous requested now = .ok r ↔
      choice ds requested now = .ok r.period ∧ ¬ r.period.HasRun previous ∧
        r.previous = previous ∧ r.next = r.period.snapshot := by
  constructor
  · intro h
    cases hc : choice ds requested now with
    | error e =>
      rw [resolve_of_choice_error hc] at h
      cases h
    | ok q =>
      by_cases hrun : q.HasRun previous
      · rw [resolve_of_hasRun hc hrun] at h
        cases h
      · rw [resolve_of_not_hasRun hc hrun] at h
        obtain rfl := Except.ok.inj h
        exact ⟨rfl, hrun, rfl, rfl⟩
  · rintro ⟨hc, hrun, hprevious, hnext⟩
    rw [resolve_of_not_hasRun hc hrun, ← hprevious, ← hnext]

theorem resolve_eq_invalid_iff {name : String} {flaw : Flaw} :
    resolve ds previous requested now = .error (.invalid name flaw) ↔
      choice ds requested now = .error (.invalid name flaw) := by
  refine ⟨fun h => ?_, resolve_of_choice_error⟩
  cases hc : choice ds requested now with
  | error e =>
    rw [resolve_of_choice_error hc] at h
    obtain rfl := Except.error.inj h
    rfl
  | ok q =>
    by_cases hrun : q.HasRun previous
    · rw [resolve_of_hasRun hc hrun] at h
      cases h
    · rw [resolve_of_not_hasRun hc hrun] at h
      cases h

theorem resolve_fault_iff (hnow : now.isInner) :
    (∃ e f, resolve ds previous requested now = .error e ∧ e.fault? = some f) ↔
      requested = false ∧ ∃ before d after, ds = before ++ d :: after ∧
        (∀ e ∈ before, Declaration.IsClosed now e) ∧ Zone.CutsCharacter d.timing.timeZone := by
  rw [← choice_fault_iff hnow]
  constructor
  · rintro ⟨e, f, h, hf⟩
    cases e with
    | alreadyRun p => cases hf
    | invalid name flaw => exact ⟨_, f, resolve_eq_invalid_iff.mp h, hf⟩
  · rintro ⟨e, f, h, hf⟩
    exact ⟨e, f, resolve_of_choice_error h, hf⟩

/-- **The answer follows from what is chosen**, ten days inside the range of dates. Exactly one
choice is made, and a chosen period is open. It is refused when it is one-shot and recorded, and
otherwise it comes with the record passed in and its own record without results; a flawed entry is
named. There is no answer exactly when the time zone text of the entry that decides is cut inside a
character. -/
theorem resolve_reference (hnow : now.isInner) (ds : List Declaration)
    (previous : Option PassRecord) (requested : Bool) :
    ∃ chosen, (∀ c, Chosen now requested ds c ↔ c = chosen) ∧
      (∀ p, chosen = .ok p → p.window.start ≤ now ∧ now < p.window.stop) ∧
      (∀ p, resolve ds previous requested now = .error (.alreadyRun p) ↔
        chosen = .ok p ∧ p.HasRun previous) ∧
      (∀ r, resolve ds previous requested now = .ok r ↔
        chosen = .ok r.period ∧ ¬ r.period.HasRun previous ∧ r.previous = previous ∧
          r.next = ⟨r.period.name, r.period.target, r.period.fingerprint, [], []⟩) ∧
      (∀ name flaw, resolve ds previous requested now = .error (.invalid name flaw) ↔
        chosen = .error (.invalid name flaw)) ∧
      ((∃ e f, resolve ds previous requested now = .error e ∧ e.fault? = some f) ↔
        requested = false ∧ ∃ before d after, ds = before ++ d :: after ∧
          (∀ e ∈ before, Declaration.IsClosed now e) ∧ Zone.CutsCharacter d.timing.timeZone) := by
  refine ⟨choice ds requested now, fun c => chosen_iff hnow, fun p hp => ?_,
    fun p => resolve_eq_alreadyRun_iff hnow, fun r => resolve_eq_ok_iff,
    fun name flaw => resolve_eq_invalid_iff, resolve_fault_iff hnow⟩
  exact ((chosen_iff hnow).mpr hp.symm).contains hnow

end Answer

/-- A nap every morning, in a time zone whose text has a letter of two bytes across its middle. -/
def unreadableNap : Declaration where
  name := "nap"
  target := .down
  timing := .recurring
    { days := ["all"], startTime := "09:00", endTime := "12:00", once := false,
      timeZone := some "+1é1" }

/-- On 3 June 2024 at 10:00 UTC the nap is due, and there is no answer. -/
theorem unreadableNap_unanswered :
    ∃ e f, resolve [unreadableNap] none false (Instant.ofHour 19877 10) = .error e ∧
      e.fault? = some f := by
  have hnow : (Instant.ofHour 19877 10).isInner := by decide
  obtain ⟨_, -, -, -, -, -, hfault⟩ := resolve_reference hnow [unreadableNap] none false
  refine hfault.mpr ⟨rfl, [], unreadableNap, [], rfl, fun _ h => absurd h List.not_mem_nil, ?_⟩
  refine ⟨'+', ['1', 'é', '1'], Or.inl rfl, by decide, by decide, by decide, ?_⟩
  -- the bytes before a cut are none, one, or at least three
  rintro (_ | ⟨a, _ | ⟨b, before⟩⟩) after h
  · decide
  · obtain ⟨rfl, -⟩ := List.cons.inj h
    decide
  · obtain ⟨rfl, htail⟩ := List.cons.inj h
    obtain ⟨rfl, -⟩ := List.cons.inj htail
    have hone : '1'.utf8Size = 1 := by decide
    have htwo : 'é'.utf8Size = 2 := by decide
    rw [Zone.byteLength_cons, Zone.byteLength_cons]
    omega

end PeriodScaler
