import PeriodScaler.Calendar.Instant

/-!
# Shifting times by seconds

Moving a time by whole seconds moves its stamp by two billion for each of them, the fraction of the
second and a leap second included. So a shift keeps the order of times and two shifts add up; what a
clock at an offset shows is the instant, shifted.

* **`stamp_addSeconds`**: a shift is an addition of stamps.
* **`localTime_instant`**: at the instant of a local time, the clock shows that time.
* **`localTime_of_isInner`**: ten days inside the range of dates, every clock shows a time.
* **`nanosFrom_pos`**: outside leap seconds, time passes until a later instant.
-/

namespace PeriodScaler

/-! ## Stamps -/

theorem Clock.stamp_lt (c : Clock) : c.stamp < 172800000000000 := by
  have hs := c.second_lt
  have hn := c.nano_lt
  unfold Clock.stamp
  omega

theorem Clock.lt_iff_stamp {a b : Clock} : a < b ↔ a.stamp < b.stamp := Iff.rfl

namespace DateTime

theorem lt_iff_stamp {a b : DateTime} : a < b ↔ a.stamp < b.stamp := Iff.rfl

theorem le_iff_stamp {a b : DateTime} : a ≤ b ↔ a.stamp ≤ b.stamp := Iff.rfl

theorem stamp_eq (t : DateTime) :
    t.stamp = t.date.day * 172800000000000 + t.clock.stamp := by
  unfold stamp
  omega

/-- A time lies within its day. -/
theorem stamp_bounds (t : DateTime) :
    t.date.day * 172800000000000 ≤ t.stamp ∧
      t.stamp < (t.date.day + 1) * 172800000000000 := by
  have h := t.clock.stamp_lt
  rw [stamp_eq]
  omega

/-- **A shift is an addition of stamps.** -/
theorem stamp_addSeconds (t : DateTime) (n : Int) :
    (t.addSeconds n).stamp = t.stamp + n * 2000000000 := by
  have hs := t.clock.second_lt
  simp only [stamp, addSeconds, Clock.stamp, Date.addDays_day]
  omega

theorem addSeconds_lt_iff {a b : DateTime} {n : Int} :
    a.addSeconds n < b.addSeconds n ↔ a < b := by
  rw [lt_iff_stamp, lt_iff_stamp, stamp_addSeconds, stamp_addSeconds]
  omega

theorem addSeconds_le_iff {a b : DateTime} {n : Int} :
    a.addSeconds n ≤ b.addSeconds n ↔ a ≤ b := by
  rw [le_iff_stamp, le_iff_stamp, stamp_addSeconds, stamp_addSeconds]
  omega

/-- A shift there and back is none. -/
theorem addSeconds_neg_addSeconds (t : DateTime) (n : Int) :
    (t.addSeconds (-n)).addSeconds n = t := by
  obtain ⟨⟨day⟩, ⟨second, nano, hs, hn⟩⟩ := t
  simp only [addSeconds, Date.addDays, DateTime.mk.injEq, Date.mk.injEq, Clock.mk.injEq, and_true]
  omega

/-- A shift by less than a day leads to a neighbouring date at most. -/
theorem date_addSeconds_bounds (t : DateTime) {n : Int} (lower : -86400 < n) (upper : n < 86400) :
    t.date.day - 1 ≤ (t.addSeconds n).date.day ∧ (t.addSeconds n).date.day ≤ t.date.day + 1 := by
  have hs := t.clock.second_lt
  simp only [addSeconds, Date.addDays_day]
  omega

end DateTime

theorem Date.inRange_iff {d : Date} :
    d.inRange = true ↔ Date.first.day ≤ d.day ∧ d.day ≤ Date.last.day := by
  simp [Date.inRange]

/-! ## Clocks at an offset -/

namespace Instant

theorem lt_iff_utc {a b : Instant} : a < b ↔ a.utc < b.utc := Iff.rfl

theorem le_iff_utc {a b : Instant} : a ≤ b ↔ a.utc ≤ b.utc := Iff.rfl

/-- At least ten days inside the range of dates. -/
def isInner (t : Instant) : Prop :=
  Date.first.day + 10 ≤ t.utc.date.day ∧ t.utc.date.day ≤ Date.last.day - 10

instance (t : Instant) : Decidable t.isInner :=
  inferInstanceAs (Decidable (_ ∧ _))

end Instant

namespace Offset

variable {o : Offset}

theorem localTime_eq_ok {t : Instant} {shown : DateTime} :
    o.localTime t = .ok shown ↔ shown = t.utc.addSeconds o.seconds ∧ shown.inRange = true := by
  unfold localTime
  simp only
  split
  · rename_i h
    constructor
    · intro he
      obtain rfl := Except.ok.inj he
      exact ⟨rfl, h⟩
    · rintro ⟨rfl, -⟩
      rfl
  · rename_i h
    constructor
    · intro he
      cases he
    · rintro ⟨rfl, hr⟩
      exact absurd hr h

/-- Ten days inside the range, a clock shows a time of the same date or of a neighbouring one. -/
theorem localTime_of_isInner (o : Offset) {t : Instant} (ht : t.isInner) :
    ∃ shown, o.localTime t = .ok shown ∧
      Date.first.day + 9 ≤ shown.date.day ∧ shown.date.day ≤ Date.last.day - 9 := by
  obtain ⟨hfirst, hlast⟩ := ht
  obtain ⟨hlo, hhi⟩ := t.utc.date_addSeconds_bounds o.lower o.upper
  refine ⟨t.utc.addSeconds o.seconds, localTime_eq_ok.mpr ⟨rfl, ?_⟩, by omega, by omega⟩
  rw [DateTime.inRange, Date.inRange_iff]
  omega

/-- A local time whose neighbouring dates are in range is shown at some instant. -/
theorem instant?_isSome {t : DateTime} (hfirst : Date.first.day + 1 ≤ t.date.day)
    (hlast : t.date.day ≤ Date.last.day - 1) : ∃ i, o.instant? t = some i := by
  have hl := o.lower
  have hu := o.upper
  obtain ⟨hlo, hhi⟩ := t.date_addSeconds_bounds (n := -o.seconds) (by omega) (by omega)
  refine ⟨⟨t.addSeconds (-o.seconds)⟩, ?_⟩
  unfold instant?
  rw [if_pos]
  rw [DateTime.inRange, Date.inRange_iff]
  omega

/-- **At the instant of a local time, the clock shows that time.** -/
theorem localTime_instant {t : DateTime} {i : Instant} (h : o.instant? t = some i)
    (ht : t.inRange = true) : o.localTime i = .ok t := by
  unfold instant? at h
  simp only at h
  split at h
  · obtain rfl := Option.some.inj h
    exact localTime_eq_ok.mpr ⟨(t.addSeconds_neg_addSeconds o.seconds).symm, ht⟩
  · cases h

end Offset

/-! ## The time between instants -/

namespace Instant

/-- Whether an instant does not lie in a leap second. -/
def isRegular (t : Instant) : Prop :=
  t.utc.clock.nano < 1000000000

instance (t : Instant) : Decidable t.isRegular :=
  inferInstanceAs (Decidable (_ < _))

/-- **From an instant outside a leap second to a later one, time passes.** A leap second at the end
of a day is not counted towards the next day, so from within one a later instant may seem past. -/
theorem nanosFrom_pos {a b : Instant} (ha : a.isRegular) (h : a < b) : 0 < a.nanosFrom b := by
  have hsa := a.utc.clock.second_lt
  have hsb := b.utc.clock.second_lt
  have hnb := b.utc.clock.nano_lt
  rw [lt_iff_utc, DateTime.lt_iff_stamp, DateTime.stamp_eq, DateTime.stamp_eq] at h
  unfold isRegular at ha
  simp only [Clock.stamp] at h
  unfold nanosFrom
  simp only
  split
  · omega
  · split
    · omega
    · omega

end Instant

/-! ## Full hours -/

/-- A full hour of the day. -/
def Clock.ofHour (hour : Fin 24) : Clock where
  second := hour * 3600
  nano := 0
  second_lt := by omega
  nano_lt := Clock.midnight.nano_lt

/-- A full hour at UTC, of a date that is counted as dates are. -/
def Instant.ofHour (day : Int) (hour : Fin 24) : Instant :=
  ⟨⟨⟨day⟩, Clock.ofHour hour⟩⟩

end PeriodScaler
