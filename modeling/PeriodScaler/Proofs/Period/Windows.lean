import PeriodScaler.Proofs.Calendar.ZoneText
import PeriodScaler.Proofs.Period.Weekly

/-!
# Windows of either kind

What holds of the window of a timing, weekly or single: when it is open, for how long it stays the
same, and when it cannot be evaluated at all. Ten days inside the range of dates only the text of
the time zone can leave a timing without an answer; every other flaw has a description.

* **`Timing.window_active_iff`**: a window is open exactly when it contains the instant.
* **`Timing.window_lasts`**: an open window is the window at every instant that it contains.
* **`Timing.window_fault_iff`**: a window cannot be evaluated exactly when its time zone text is cut
  inside a character.
-/

namespace PeriodScaler

/-- A flaw of the time zone. -/
def Flaw.IsOfZone (flaw : Flaw) : Prop :=
  ∃ e, flaw = .zone e

/-- A flaw of what is declared besides the time zone, and no fault. -/
def Flaw.IsPlain (flaw : Flaw) : Prop :=
  flaw.fault? = none ∧ ¬ flaw.IsOfZone

/-! ## Weekly timings -/

namespace Weekly

variable {w : Weekly} {o : Offset} {now : Instant} {win : Window}

/-- A weekly timing that has a window has one at every inner instant. -/
theorem window_of_isInner {later : Instant} (h : w.window o now = .ok win)
    (hlater : later.isInner) : ∃ win', w.window o later = .ok win' := by
  obtain ⟨sel, start, stop, -, hdays, hstart, hstop, -⟩ := window_found h
  obtain ⟨-, win', -, hwin', -⟩ := window_cases hdays hstart hstop o hlater
  exact ⟨win', hwin'⟩

theorem weekdays_isPlain (days : List String) : FailsWith Flaw.IsPlain (weekdays days) := by
  have hselected : ∀ (days : List String) (found : List Weekday),
      FailsWith Flaw.IsPlain (selected days found) := by
    intro days
    induction days with
    | nil => exact fun found => .ok found
    | cons raw rest ih =>
      intro found
      unfold selected
      simp only
      split
      · exact .ok _
      · split
        · exact .error ⟨rfl, nofun⟩
        · exact ih _
  unfold weekdays
  split
  · exact .error ⟨rfl, nofun⟩
  · exact hselected days []

theorem clock_isPlain (raw : String) : FailsWith Flaw.IsPlain (clock raw) := by
  unfold clock
  simp only
  split
  · exact .ok _
  · exact .error ⟨rfl, nofun⟩

/-- Ten days inside the range of dates a weekly timing does not fault. -/
theorem window_fault? (hnow : now.isInner) {flaw : Flaw} (h : w.window o now = .error flaw) :
    flaw.fault? = none := by
  cases hdays : weekdays w.days with
  | error e =>
    unfold window at h
    rw [hdays, error_bind] at h
    obtain rfl := Except.error.inj h
    exact (weekdays_isPlain _ _ hdays).1
  | ok sel =>
    cases hstart : clock w.startTime with
    | error e =>
      unfold window at h
      rw [hdays, ok_bind, hstart, error_bind] at h
      obtain rfl := Except.error.inj h
      exact (clock_isPlain _ _ hstart).1
    | ok start =>
      cases hstop : clock w.endTime with
      | error e =>
        unfold window at h
        rw [hdays, ok_bind, hstart, ok_bind, hstop, error_bind] at h
        obtain rfl := Except.error.inj h
        exact (clock_isPlain _ _ hstop).1
      | ok stop =>
        obtain ⟨_, win, -, hwin, -⟩ := window_cases hdays hstart hstop o hnow
        rw [hwin] at h
        cases h

end Weekly

/-! ## Single timings -/

namespace Single

variable {w : Single} {o : Offset} {now : Instant}

/-- The window of a single timing lies between its two instants. -/
theorem window_found {win : Window} (h : w.window o now = .ok win) :
    ∃ start stop, instant w.startTime o = .ok start ∧ instant w.endTime o = .ok stop ∧
      ¬ stop ≤ start ∧ win = ⟨decide (start ≤ now ∧ now < stop), start, stop⟩ := by
  obtain ⟨start, hstart, h⟩ := bind_eq_ok.mp h
  obtain ⟨stop, hstop, h⟩ := bind_eq_ok.mp h
  split at h
  · cases h
  · rename_i horder
    exact ⟨start, stop, hstart, hstop, horder, (Except.ok.inj h).symm⟩

/-- A single timing that has a window has one at every instant. -/
theorem window_of_window {later : Instant} {win : Window} (h : w.window o now = .ok win) :
    ∃ win', w.window o later = .ok win' := by
  obtain ⟨start, stop, hstart, hstop, horder, -⟩ := window_found h
  refine ⟨⟨decide (start ≤ later ∧ later < stop), start, stop⟩, ?_⟩
  unfold window
  rw [hstart, ok_bind, hstop, ok_bind, if_neg horder]
  rfl

theorem window_active_iff {win : Window} (h : w.window o now = .ok win) :
    win.active = true ↔ win.Contains now := by
  obtain ⟨start, stop, -, -, -, rfl⟩ := window_found h
  exact decide_eq_true_iff

/-- An open window lasts. -/
theorem window_lasts {t : Instant} {win win' : Window} (h : w.window o now = .ok win)
    (hopen : win.active = true) (ht : win.Contains t) (h' : w.window o t = .ok win') :
    win' = win := by
  obtain ⟨start, stop, hstart, hstop, -, rfl⟩ := window_found h
  obtain ⟨start', stop', hstart', hstop', -, rfl⟩ := window_found h'
  obtain rfl := Except.ok.inj (hstart.symm.trans hstart')
  obtain rfl := Except.ok.inj (hstop.symm.trans hstop')
  exact congrArg (Window.mk · start stop) ((decide_eq_true ht).trans hopen.symm)

theorem instant_isPlain (raw : String) (o : Offset) :
    FailsWith Flaw.IsPlain (instant raw o) := by
  unfold instant
  simp only
  split
  · exact .ok _
  · split
    · exact .error ⟨rfl, nofun⟩
    · split
      · exact .ok _
      · exact .error ⟨rfl, nofun⟩

/-- A single timing does not fault, and the time zone is no flaw of it. -/
theorem window_isPlain (w : Single) (o : Offset) (now : Instant) :
    FailsWith Flaw.IsPlain (w.window o now) := by
  refine .bind (instant_isPlain _ o) fun start => .bind (instant_isPlain _ o) fun stop => ?_
  split
  · exact .error ⟨rfl, nofun⟩
  · exact .ok _

end Single

/-! ## Timings -/

namespace Timing

variable {t : Timing} {now : Instant}

theorem fixed_window {w : Single} {o : Offset} (hzone : Zone.offset w.timeZone = .ok o) :
    (fixed w).window now = w.window o now := by
  unfold window
  rw [timeZone, hzone, mapError_ok, ok_bind]

theorem window_of_zone_error {e : ZoneError} (h : Zone.offset t.timeZone = .error e) :
    t.window now = .error (.zone e) := by
  unfold window
  rw [h, mapError_error, error_bind]

/-- **A window is open exactly when it contains the instant.** -/
theorem window_active_iff {win : Window} (h : t.window now = .ok win) :
    win.active = true ↔ win.Contains now := by
  obtain ⟨o, -, h⟩ := bind_eq_ok.mp h
  cases t with
  | recurring w => exact Weekly.window_active_iff h
  | fixed w => exact Single.window_active_iff h

/-- **An open window lasts**: at every instant that it contains, there is no other one. -/
theorem window_lasts {later : Instant} {win win' : Window} (h : t.window now = .ok win)
    (hopen : win.active = true) (hlater : win.Contains later) (h' : t.window later = .ok win') :
    win' = win := by
  obtain ⟨o, hzone, h⟩ := bind_eq_ok.mp h
  obtain ⟨o', hzone', h'⟩ := bind_eq_ok.mp h'
  obtain rfl := Except.ok.inj (hzone.symm.trans hzone')
  cases t with
  | recurring w => exact Weekly.window_lasts h hopen hlater h'
  | fixed w => exact Single.window_lasts h hopen hlater h'

/-- A timing that has a window has one at every inner instant. -/
theorem window_of_isInner {later : Instant} {win : Window} (h : t.window now = .ok win)
    (hlater : later.isInner) : ∃ win', t.window later = .ok win' := by
  obtain ⟨o, hzone, h⟩ := bind_eq_ok.mp h
  have hzone := mapError_eq_ok.mp hzone
  cases t with
  | recurring w =>
    rw [recurring_window hzone]
    exact Weekly.window_of_isInner h hlater
  | fixed w =>
    rw [fixed_window hzone]
    exact Single.window_of_window h

/-- **A window cannot be evaluated** exactly when its time zone text is cut inside a character. -/
theorem window_fault_iff (hnow : now.isInner) :
    (∃ flaw f, t.window now = .error flaw ∧ flaw.fault? = some f) ↔
      Zone.CutsCharacter t.timeZone := by
  constructor
  · rintro ⟨flaw, f, h, hf⟩
    cases hzone : Zone.offset t.timeZone with
    | error e =>
      rw [window_of_zone_error hzone] at h
      obtain rfl := Except.error.inj h
      cases e with
      | fault g => exact (Zone.offset_fault_iff.mp hzone).2
      | unsupported z => cases hf
      | malformed z => cases hf
      | outOfRange z => cases hf
    | ok o =>
      cases t with
      | recurring w =>
        rw [recurring_window hzone] at h
        rw [Weekly.window_fault? hnow h] at hf
        cases hf
      | fixed w =>
        rw [fixed_window hzone] at h
        rw [(Single.window_isPlain w o now _ h).1] at hf
        cases hf
  · intro hcut
    have hzone := Zone.offset_fault_iff.mpr ⟨rfl, hcut⟩
    exact ⟨_, .cut, window_of_zone_error hzone, rfl⟩

end Timing

end PeriodScaler
