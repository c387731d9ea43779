import PeriodScaler.Proofs.Period.Windows

/-!
# Windows within the range of dates

Both ends of a window are instants of the range of dates, however its timing writes them: what is
read from a text or shown by a clock is refused outside the range. So the time that is left in an
open window is bounded by the length of the range, and not by the instant at which it is told.

* **`Timing.window_inRange`**: a window lies within the range of dates.
* **`Window.seconds_remaining_le`**: the most time that can be left in an open window.
-/

namespace PeriodScaler

/-! ## Instants in range -/

/-- Every value that a computation can have satisfies `P`. -/
def Gives {α : Type} (P : α → Prop) (x : Option α) : Prop :=
  ∀ a, x = some a → P a

theorem Gives.bind {α β : Type} {P : β → Prop} {x : Option α} {f : α → Option β}
    (hf : ∀ a, Gives P (f a)) : Gives P (x >>= f) := by
  intro b hb
  obtain ⟨a, -, hb⟩ := Option.bind_eq_some_iff.mp hb
  exact hf a b hb

theorem Offset.gives_inRange (o : Offset) (t : DateTime) :
    Gives (fun i : Instant => i.utc.inRange = true) (o.instant? t) := by
  intro i h
  unfold instant? at h
  simp only at h
  split at h
  · obtain rfl := Option.some.inj h
    assumption
  · cases h

theorem Calendar.gives_inRange (cs : List Char) :
    Gives (fun i : Instant => i.utc.inRange = true) (rfc3339? cs) := by
  have htail : ∀ (parts : Parts) (ahead : Int) (rest : List Char),
      Gives (fun i : Instant => i.utc.inRange = true) (if !rest.isEmpty then none else do
        (← Offset.ofSeconds? ahead).instant? (← parts.dateTime?)) := by
    intro parts ahead rest
    split
    · exact fun i hi => by cases hi
    · exact Gives.bind fun o => Gives.bind fun shown => o.gives_inRange shown
  unfold rfc3339?
  repeat refine Gives.bind fun _ => ?_
  dsimp only
  split
  all_goals exact Gives.bind fun nano => Gives.bind fun ahead => htail _ _ _

/-! ## Windows in range -/

/-- Both ends of a window are in range. -/
def Window.InRange (w : Window) : Prop :=
  w.start.utc.inRange = true ∧ w.stop.utc.inRange = true

theorem Weekly.inRange_of_instants {o : Offset} {active : Bool} {bounds : DateTime × DateTime}
    {win : Window} (h : instants o active bounds = .ok win) : win.InRange := by
  unfold instants at h
  split at h
  · rename_i hstart hstop
    obtain rfl := Except.ok.inj h
    exact ⟨o.gives_inRange _ _ hstart, o.gives_inRange _ _ hstop⟩
  · cases h
  · cases h

theorem Single.inRange_of_instant {raw : String} {o : Offset} {i : Instant}
    (h : instant raw o = .ok i) : i.utc.inRange = true := by
  unfold instant at h
  simp only at h
  split at h
  · rename_i hfound
    obtain rfl := Except.ok.inj h
    exact Calendar.gives_inRange _ _ hfound
  · split at h
    · cases h
    · split at h
      · rename_i hfound
        obtain rfl := Except.ok.inj h
        exact o.gives_inRange _ _ hfound
      · cases h

/-- **A window lies within the range of dates.** -/
theorem Timing.window_inRange {t : Timing} {now : Instant} {win : Window}
    (h : t.window now = .ok win) : win.InRange := by
  obtain ⟨o, -, h⟩ := bind_eq_ok.mp h
  cases t with
  | recurring w =>
    obtain ⟨sel, start, stop, shown, -, -, -, -, ⟨d, -, -, hwin⟩ | ⟨-, d, -, hwin⟩⟩ :=
      Weekly.window_found h
    · exact Weekly.inRange_of_instants hwin
    · exact Weekly.inRange_of_instants hwin
  | fixed w =>
    obtain ⟨start, stop, hstart, hstop, -, rfl⟩ := Single.window_found h
    exact ⟨Single.inRange_of_instant hstart, Single.inRange_of_instant hstop⟩

/-! ## The time left -/

/-- The seconds from the first instant in range to a leap second after the last one. -/
def Window.mostSeconds : Nat :=
  16544868105600

namespace Instant

variable {a b : Instant}

theorem date_le_of_le (h : a ≤ b) : a.utc.date.day ≤ b.utc.date.day := by
  rw [le_iff_utc, DateTime.le_iff_stamp] at h
  have ha := a.utc.stamp_bounds
  have hb := b.utc.stamp_bounds
  omega

/-- Between two instants in range there is no more time than between the ends of the range. -/
theorem seconds_remaining_le (ha : Date.first.day ≤ a.utc.date.day)
    (hb : b.utc.date.day ≤ Date.last.day) : (a.remaining b).seconds ≤ Window.mostSeconds := by
  have hsa := a.utc.clock.second_lt
  have hsb := b.utc.clock.second_lt
  have hnb := b.utc.clock.nano_lt
  have hfirst : Date.first.day = -96465292 := rfl
  have hlast : Date.last.day = 95026236 := rfl
  have hnanos : a.nanosFrom b ≤ 16544868105600999999999 := by
    unfold nanosFrom
    simp only
    split
    · omega
    · split
      · omega
      · omega
  unfold remaining Span.seconds Window.mostSeconds
  simp only
  omega

end Instant

/-- **The time left in an open window.** -/
theorem Window.seconds_remaining_le {w : Window} {now : Instant} (hw : w.InRange)
    (hopen : w.Contains now) : (now.remaining w.stop).seconds ≤ mostSeconds := by
  have hstart := Date.inRange_iff.mp hw.1
  have hstop := Date.inRange_iff.mp hw.2
  exact Instant.seconds_remaining_le (Int.le_trans hstart.1 (Instant.date_le_of_le hopen.1)) hstop.2

end PeriodScaler
