import PeriodScaler.Proofs.Calendar.ZoneForms
import PeriodScaler.Proofs.Period.Choice

/-!
# What becomes of a time zone text

The time zone of a declaration is read before anything else of it, and the search for its window
finds no fault with it later on. So a declaration is refused for its time zone exactly when the text
is not read.

Two things can go wrong with a text that names no offset, besides that it is read as one. It may be
cut inside a character, and then there is no answer. And hours and minutes have no lower bound, so
the sum of their seconds may leave 32 bits.

* **`Reaches.staysInWord_iff`**: for which numbers every step of the sum stays in 32 bits.
* **`Reaches.seconds_eq_iff`**: an offset that was read is the sum exactly when they all do.
* **`Timing.window_zone_iff`**: a timing is refused for its time zone exactly when that is not read.
* **`Period.zone_text_answered_iff`**: what a declaration is answered for its time zone.
-/

namespace PeriodScaler

/-! ## Sums of seconds -/

namespace Zone

variable {zone : Option String} {s h m : Int}

/-- Every step of the sum of seconds is a number of 32 bits. -/
def StaysInWord (s h m : Int) : Prop :=
  FitsWord (h * 3600) ∧ FitsWord (m * 60) ∧ FitsWord (h * 3600 + m * 60) ∧
    FitsWord (s * (h * 3600 + m * 60))

/-- One text reaches the sum with one sign, one number of hours and one of minutes. -/
theorem Reaches.unique {s' h' m' : Int} (hr : Reaches zone s h m) (hr' : Reaches zone s' h' m') :
    s = s' ∧ h = h' ∧ m = m' := by
  obtain ⟨c, part, hsign, hbare, hform, -⟩ := hr
  obtain ⟨c', part', hsign', hbare', hform', -⟩ := hr'
  obtain ⟨rfl, rfl⟩ := List.cons.inj (hbare.symm.trans hbare')
  obtain ⟨hs, ms, hcut, hhs, hms⟩ := cut_form_iff.mpr hform
  obtain ⟨hs', ms', hcut', hhs', hms'⟩ := cut_form_iff.mpr hform'
  obtain ⟨rfl, rfl⟩ := Cut.parts.inj (hcut.symm.trans hcut')
  rw [← int32?_eq_some_iff] at hhs hms hhs' hms'
  exact ⟨hsign.unique hsign', Option.some.inj (hhs.symm.trans hhs'),
    Option.some.inj (hms.symm.trans hms')⟩

/-- **For which numbers every step of the sum stays in 32 bits.** From above all of them do. -/
theorem Reaches.staysInWord_iff (hr : Reaches zone s h m) :
    StaysInWord s h m ↔ -596523 ≤ h ∧ -35791394 ≤ m ∧ -35791394 ≤ h * 60 + m := by
  obtain ⟨c, part, hsign, -, -, hh, hm⟩ := hr
  unfold StaysInWord FitsWord
  cases hsign with
  | ahead => omega
  | behind => omega

/-- What is read after a sign is the sum of the seconds, as it wraps around. -/
theorem Reaches.seconds_eq {o : Offset} (hr : Reaches zone s h m) (ho : offset zone = .ok o) :
    o.seconds = total s h m := by
  rcases offset_eq_ok_iff.mp ho with ⟨hutc, -⟩ | ⟨s', h', m', hr', hsum⟩
  · exact absurd hutc hr.not_utc
  · obtain ⟨rfl, rfl, rfl⟩ := hr.unique hr'
    exact hsum

/-- **An offset that was read is the sum of its seconds** exactly when no step of it leaves 32
bits. -/
theorem Reaches.seconds_eq_iff {o : Offset} (hr : Reaches zone s h m) (ho : offset zone = .ok o) :
    o.seconds = s * (h * 3600 + m * 60) ↔ StaysInWord s h m := by
  have hlower := o.lower
  have hupper := o.upper
  have hstays := hr.staysInWord_iff
  have hsum := hr.seconds_eq ho
  obtain ⟨c, part, hsign, -, -, hh, hm⟩ := hr
  constructor
  · intro heq
    rw [hstays]
    cases hsign with
    | ahead => omega
    | behind => omega
  · intro h
    have hbounds := hstays.mp h
    rw [hsum]
    exact total_eq hsign (by omega) (by omega)

/-- A documented offset stays far away from the bounds. -/
theorem Names.staysInWord {o : Offset} (hnames : Names zone o) (hr : Reaches zone s h m) :
    StaysInWord s h m := by
  rw [← hr.seconds_eq_iff (offset_eq_ok_iff_or.mpr (Or.inl hnames))]
  cases hnames with
  | utc hutc => exact absurd hutc hr.not_utc
  | signed hsign hbare hform hh hm ho =>
    obtain ⟨rfl, rfl, rfl⟩ :=
      hr.unique ⟨_, _, hsign, hbare, (hform.of_digits hh hm).1, hh, hm⟩
    exact ho

end Zone

/-! ## Flaws of windows -/

namespace Weekly

theorem checked_not_isOfZone (d : Date) : FailsWith (¬ ·.IsOfZone) (checked d) := by
  unfold checked
  split
  · exact .ok _
  · exact .error nofun

theorem occurrenceAt_not_isOfZone (start stop : Clock) (today : Date) (n : Int) :
    FailsWith (¬ ·.IsOfZone) (occurrenceAt start stop today n) :=
  .bind (checked_not_isOfZone _) fun _ => .bind (checked_not_isOfZone _) fun _ => .ok _

theorem firstOccurrence_not_isOfZone (start stop : Clock) (sel : List Weekday) (today : Date)
    (holds : DateTime × DateTime → Bool) (ns : List Int) :
    FailsWith (¬ ·.IsOfZone) (firstOccurrence start stop sel today holds ns) := by
  induction ns with
  | nil => exact .ok none
  | cons n ns ih =>
    unfold firstOccurrence
    refine .bind (checked_not_isOfZone _) fun d => ?_
    split
    · refine .bind (occurrenceAt_not_isOfZone _ _ _ _) fun bounds => ?_
      split
      · exact .ok _
      · exact ih
    · exact ih

theorem instants_not_isOfZone (o : Offset) (active : Bool) (bounds : DateTime × DateTime) :
    FailsWith (¬ ·.IsOfZone) (instants o active bounds) := by
  unfold instants
  split
  · exact .ok _
  · exact .error nofun
  · exact .error nofun

/-- The search for a window finds no fault with the time zone. -/
theorem window_not_isOfZone (w : Weekly) (o : Offset) (now : Instant) :
    FailsWith (¬ ·.IsOfZone) (w.window o now) := by
  have hclock (raw : String) := (clock_isPlain raw).mono fun _ h => h.2
  refine .bind ((weekdays_isPlain _).mono fun _ h => h.2) fun sel =>
    .bind (hclock _) fun start => .bind (hclock _) fun stop =>
      .bind (.mapError (fun _ => nofun) _) fun shown =>
        .bind (firstOccurrence_not_isOfZone _ _ _ _ _ _) fun current => ?_
  cases current with
  | some found => exact instants_not_isOfZone o true found
  | none =>
    refine .bind (firstOccurrence_not_isOfZone _ _ _ _ _ _) fun next => ?_
    cases next with
    | some found => exact instants_not_isOfZone o false found
    | none => exact .error nofun

end Weekly

/-- **A timing is refused for its time zone** exactly when that is not read. -/
theorem Timing.window_zone_iff {t : Timing} {now : Instant} {e : ZoneError} :
    t.window now = .error (.zone e) ↔ Zone.offset t.timeZone = .error e := by
  refine ⟨fun h => ?_, window_of_zone_error⟩
  cases hzone : Zone.offset t.timeZone with
  | error e' =>
    rw [window_of_zone_error hzone] at h
    exact congrArg Except.error (Flaw.zone.inj (Except.error.inj h))
  | ok o =>
    cases t with
    | recurring w =>
      rw [recurring_window hzone] at h
      exact absurd ⟨e, rfl⟩ (Weekly.window_not_isOfZone w o now _ h)
    | fixed w =>
      rw [fixed_window hzone] at h
      exact absurd ⟨e, rfl⟩ (Single.window_isPlain w o now _ h).2

namespace Period

/-- A declaration is refused for its time zone exactly when that is not read. -/
theorem evaluate_zone_iff {d : Declaration} {now : Instant} {e : ZoneError} :
    evaluate d now = .error (.invalid d.name (.zone e)) ↔
      Zone.offset d.timing.timeZone = .error e := by
  rw [← Timing.window_zone_iff]
  cases h : d.timing.window now with
  | ok w => simp [evaluate_ok h]
  | error flaw => simp [evaluate_error h]

/-- **What a declaration is answered for its time zone.** There is no answer exactly when the text
is cut inside a character. The sum of the seconds leaves 32 bits exactly when hours or minutes, or
both together, are too far below zero, and the offset is then not the sum. A text that names no
offset is refused unless it is cut inside a character or misread; one that names an offset is
neither, and its sum stays in 32 bits. -/
theorem zone_text_answered_iff (d : Declaration) (now : Instant) :
    ((∃ f, evaluate d now = .error (.invalid d.name (.zone (.fault f)))) ↔
        Zone.CutsCharacter d.timing.timeZone) ∧
      (∀ s h m, Zone.Reaches d.timing.timeZone s h m →
        (Zone.StaysInWord s h m ↔ -596523 ≤ h ∧ -35791394 ≤ m ∧ -35791394 ≤ h * 60 + m) ∧
        ∀ o, Zone.offset d.timing.timeZone = .ok o →
          (o.seconds = s * (h * 3600 + m * 60) ↔ Zone.StaysInWord s h m)) ∧
      ((∀ o, ¬ Zone.Names d.timing.timeZone o) →
        ((∃ e, (∀ f, e ≠ .fault f) ∧ evaluate d now = .error (.invalid d.name (.zone e))) ↔
          ¬ Zone.CutsCharacter d.timing.timeZone ∧ ∀ o, ¬ Zone.Misread d.timing.timeZone o)) ∧
      (∀ o, Zone.Names d.timing.timeZone o → ¬ Zone.CutsCharacter d.timing.timeZone ∧
        ∀ s h m, Zone.Reaches d.timing.timeZone s h m → Zone.StaysInWord s h m) := by
  have hfault : (∃ f, Zone.offset d.timing.timeZone = .error (.fault f)) ↔
      Zone.CutsCharacter d.timing.timeZone := by
    simp only [Zone.offset_fault_iff, exists_eq_left]
  simp only [evaluate_zone_iff]
  refine ⟨hfault, fun s h m hr => ⟨hr.staysInWord_iff, fun o ho => hr.seconds_eq_iff ho⟩,
    fun hunnamed => ?_, fun o hnames => ⟨fun hcut => ?_, fun s h m hr => hnames.staysInWord hr⟩⟩
  · constructor
    · rintro ⟨e, hanswer, he⟩
      refine ⟨fun hcut => ?_, fun o hmisread => ?_⟩
      · obtain ⟨f, hf⟩ := hfault.mpr hcut
        exact hanswer f (Except.error.inj (he.symm.trans hf))
      · cases he.symm.trans (Zone.offset_eq_ok_iff.mpr (Or.inr hmisread.2))
    · rintro ⟨hwhole, hread⟩
      cases hzone : Zone.offset d.timing.timeZone with
      | error e =>
        refine ⟨e, ?_, rfl⟩
        rintro f rfl
        exact hwhole (hfault.mp ⟨f, hzone⟩)
      | ok o =>
        exact absurd (Zone.offset_eq_ok_iff_or.mp hzone) (not_or.mpr ⟨hunnamed o, hread o⟩)
  · obtain ⟨f, hf⟩ := hfault.mpr hcut
    cases hf.symm.trans (Zone.offset_eq_ok_iff_or.mpr (Or.inl hnames))

/-- A nap in a time zone whose text is a sign, a letter of three bytes and a digit. -/
def foreignNap : Declaration where
  name := "nap"
  target := .down
  timing := .recurring
    { days := ["all"], startTime := "09:00", endTime := "12:00", once := false,
      timeZone := some "+€1" }

/-- The nap is not answered. And more than a million hours behind a sign ahead of UTC are read as
some minutes, since their seconds wrap around. -/
theorem foreignNap_unanswered :
    (∃ f, evaluate foreignNap (Instant.ofHour 19877 10) =
        .error (.invalid "nap" (.zone (.fault f)))) ∧
      (∃ o, Zone.offset (some "+-1193046") = .ok o ∧ o.seconds = 1696) ∧
      ¬ Zone.StaysInWord 1 (-1193046) 0 := by
  have hcut : Zone.CutsCharacter foreignNap.timing.timeZone := by
    refine ⟨'+', ['€', '1'], Or.inl rfl, by decide, by decide, by decide, ?_⟩
    -- the bytes before a cut are none, or at least three
    rintro (_ | ⟨a, before⟩) after h
    · decide
    · obtain ⟨rfl, -⟩ := List.cons.inj h
      have hthree : '€'.utf8Size = 3 := by decide
      rw [Zone.byteLength_cons]
      omega
  refine ⟨⟨.cut, evaluate_zone_iff.mpr (Zone.offset_fault_iff.mpr ⟨rfl, hcut⟩)⟩,
    ⟨⟨1696, by decide, by decide⟩, by rfl, rfl⟩, ?_⟩
  rintro ⟨⟨hlower, -⟩, -⟩
  exact absurd hlower (by decide)

end Period

end PeriodScaler
