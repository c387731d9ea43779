import PeriodScaler.Proofs.Cycle.Delays
import PeriodScaler.Proofs.Cycle.Waiting
import PeriodScaler.Proofs.Period.Range

/-!
# Waits that are too long to be told

The wait for a period that has run is the time that is left in its window and the grace after it. A
span has 64 bits for its seconds, and the two are added without a look at what comes out. The time
that is left is bounded by the range of dates. The grace is not bounded: a configuration is loaded
with every number of seconds that has 64 bits. So there are configurations with which the wait
cannot be told, and the cycle ends with a fault instead of a delay; which ones they are depends on
both bounds at once.

* **`Config.grace_of_load`**: the grace of a loaded configuration.
* **`rerunDelay_eq`**: the wait, or the fault when it is overlong.
* **`Stages.execute_period_fault_iff`**: when the period stage faults.
* **`one_shot_wait_fits_iff`**: the configurations with which no wait is overlong.
* **`longest_grace_overflows`**: one that is loaded, and with which a cycle faults.
-/

namespace PeriodScaler

open Memory (World)

/-! ## The grace -/

theorem Text.nat?_le (hi : Nat) (cs : List Char) : Gives (· ≤ hi) (nat? hi cs) := by
  have hchecked : ∀ value, Gives (· ≤ hi) (if value ≤ hi then some value else none) := by
    intro value n hn
    split at hn
    · obtain rfl := Option.some.inj hn
      assumption
    · cases hn
  unfold nat?
  dsimp only
  split
  all_goals exact Gives.bind hchecked

namespace Config

variable {lookup : Lookup}

theorem seconds_of_ok {name : String} {default value : Span} {n : Nat}
    (hdefault : default = .ofSeconds n) (hn : n ≤ Text.maxWord64)
    (h : seconds lookup name default = .ok value) : ∃ m ≤ Text.maxWord64, value = .ofSeconds m := by
  unfold seconds number at h
  split at h
  · obtain rfl := Except.ok.inj h
    exact ⟨n, hn, hdefault⟩
  · split at h
    · obtain rfl := Except.ok.inj h
      exact ⟨_, Text.nat?_le _ _ _ ‹_›, rfl⟩
    · cases h

/-- **The grace of a loaded configuration** is a whole number of seconds, and any that has 64
bits. -/
theorem grace_of_load {config : Config} (h : load lookup = .ok config) :
    ∃ n ≤ Text.maxWord64, config.settings.grace = .ofSeconds n := by
  obtain ⟨steady, -, h⟩ := bind_eq_ok.mp h
  obtain ⟨afterError, -, h⟩ := bind_eq_ok.mp h
  obtain ⟨grace, hgrace, h⟩ := bind_eq_ok.mp h
  -- the number of attempts is given or left out, and either is checked
  simp only at h
  split at h
  all_goals
    obtain ⟨attempts, -, h⟩ := bind_eq_ok.mp h
    split at h
    · cases h
    · split at h
      · cases h
      · obtain rfl := Except.ok.inj h
        exact seconds_of_ok (n := 60) rfl (by decide) hgrace

end Config

/-! ## The wait -/

namespace Span

theorem seconds_ofSeconds (n : Nat) : (ofSeconds n).seconds = n :=
  Nat.mul_div_cancel n (by decide)

/-- Whole seconds do not change a fraction of one. -/
theorem seconds_add_ofSeconds (s : Span) (n : Nat) :
    (⟨s.nanos + (ofSeconds n).nanos⟩ : Span).seconds = s.seconds + n :=
  Nat.add_mul_div_right s.nanos n (by decide)

end Span

section Wait

variable {p : Period} {now : Instant} {n : Nat}

/-- The wait for a period is too long to be told. -/
def Period.IsOverlong (p : Period) (now : Instant) (grace : Span) : Prop :=
  Text.maxWord64 < (now.remaining p.window.stop).seconds + grace.seconds

instance (p : Period) (now : Instant) (grace : Span) : Decidable (p.IsOverlong now grace) :=
  inferInstanceAs (Decidable (_ < _))

theorem isOverlong_iff : p.IsOverlong now (.ofSeconds n) ↔
    ¬ (⟨(now.remaining p.window.stop).nanos + (Span.ofSeconds n).nanos⟩ : Span).seconds ≤
      Text.maxWord64 := by
  rw [Nat.not_le, Span.seconds_add_ofSeconds, Period.IsOverlong, Span.seconds_ofSeconds]

/-- **A wait that can be told** is the time left in the window and the grace. -/
theorem rerunDelay_of_fits (h : ¬ p.IsOverlong now (.ofSeconds n)) :
    p.rerunDelay now (.ofSeconds n) =
      .ok ⟨(now.remaining p.window.stop).nanos + (Span.ofSeconds n).nanos⟩ :=
  Span.add_eq_ok.mpr ⟨rfl, not_not.mp (mt isOverlong_iff.mpr h)⟩

theorem rerunDelay_of_isOverlong (h : p.IsOverlong now (.ofSeconds n)) :
    p.rerunDelay now (.ofSeconds n) = .error .span := by
  unfold Period.rerunDelay Span.add
  rw [if_neg]
  simpa [Span.inRange] using isOverlong_iff.mp h

/-- **A fault** comes of an overlong wait alone. -/
theorem rerunDelay_eq_error_iff {f : Fault} : p.rerunDelay now (.ofSeconds n) = .error f ↔
    f = .span ∧ p.IsOverlong now (.ofSeconds n) := by
  constructor
  · intro h
    by_cases hlong : p.IsOverlong now (.ofSeconds n)
    · rw [rerunDelay_of_isOverlong hlong] at h
      exact ⟨(Except.error.inj h).symm, hlong⟩
    · rw [rerunDelay_of_fits hlong] at h
      cases h
  · rintro ⟨rfl, hlong⟩
    exact rerunDelay_of_isOverlong hlong

end Wait

/-! ## The period stage -/

namespace Stages

variable {c c' : Context} {e e' : CycleError}

theorem goOn_ne_fail : goOn c ≠ fail e := by simp [goOn, fail]

theorem stop_ne_fail : stop c ≠ fail e := by simp [stop, fail]

theorem fail_critical_inj {k k' : Cause} :
    fail (.critical k) = fail (.critical k') ↔ k = k' := by
  simp [fail, CycleError.critical]

theorem fetched_error {k : Cause} (h : c.fetched = .error k) : k = .missingState .scaler := by
  unfold Context.fetched at h
  split at h
  · cases h
  · exact (Except.error.inj h).symm

/-- **The period stage faults** exactly for a period that has run and whose wait cannot be told. -/
theorem execute_period_fault_iff {steady grace : Span} {f : Fault} :
    (period steady grace).execute c = fail (.critical (.fault f)) ↔
      c.leavesResources = false ∧ c.access.isNone = false ∧ ∃ x p, c.fetched = .ok x ∧
        resolve x.spec.periods x.currentPeriod c.restoreRequested c.now = .error (.alreadyRun p) ∧
        p.rerunDelay c.now grace = .error f := by
  simp only [period, withScaler]
  cases c.leavesResources with
  | true => simp [goOn_ne_fail]
  | false =>
    cases c.access.isNone with
    | true => simp [fail_critical_inj, CycleError.ofCause]
    | false =>
      simp only [Bool.false_eq_true, if_false, true_and]
      cases hx : c.fetched with
      | error k =>
        obtain rfl := fetched_error hx
        simp [fail_critical_inj, CycleError.ofCause]
      | ok x =>
        cases hresolve : resolve x.spec.periods x.currentPeriod c.restoreRequested c.now with
        | ok r =>
          cases hidle : r.isIdle with
          | true => simp [stop_ne_fail, hresolve, hidle]
          | false => simp [goOn_ne_fail, hresolve, hidle]
        | error e =>
          cases e with
          | invalid name flaw => simp [fail_critical_inj, hresolve]
          | alreadyRun p =>
            cases hdelay : p.rerunDelay c.now grace with
            | ok delay => simp [stop_ne_fail, hresolve, hdelay]
            | error g => simp [fail_critical_inj, hresolve, hdelay]

end Stages

/-! ## Configurations with which no wait is overlong -/

section Configurations

variable {ds : List Declaration} {previous : Option PassRecord} {requested : Bool} {now : Instant}
  {p : Period}

/-- The longest grace, in seconds, that any time left in a window can be added to. -/
def Settings.longestGrace : Nat :=
  Text.maxWord64 - Window.mostSeconds

/-- A period that has run is open, and its window lies within the range of dates. -/
theorem window_of_alreadyRun (h : resolve ds previous requested now = .error (.alreadyRun p)) :
    p.window.InRange ∧ p.window.Contains now := by
  cases requested with
  | true => exact absurd h resolve_requested_ne
  | false =>
    obtain ⟨-, hfirst⟩ := firstActive_of_alreadyRun h
    obtain ⟨_, d, _, w, -, -, hw, hopen, rfl⟩ := firstActive_eq_some.mp hfirst
    exact ⟨Timing.window_inRange hw, hopen⟩

/-- The wait of a period that has run is not overlong after a grace that is short enough. -/
theorem not_isOverlong_of_alreadyRun {grace : Span} (hgrace : grace.seconds ≤ Settings.longestGrace)
    (h : resolve ds previous requested now = .error (.alreadyRun p)) :
    ¬ p.IsOverlong now grace := by
  obtain ⟨hrange, hopen⟩ := window_of_alreadyRun h
  have hleft := Window.seconds_remaining_le hrange hopen
  have hsum : Window.mostSeconds + Settings.longestGrace = Text.maxWord64 := by decide
  unfold Period.IsOverlong
  omega

/-- From the first instant of the range of dates to the leap second at its end, once. -/
def allOfTime : Declaration where
  name := "always"
  target := .down
  timing := .fixed
    { startTime := "-262143-01-01 00:00:00", endTime := "+262142-12-31 23:59:60", once := true
      timeZone := none }

/-- The first instant of the range of dates. -/
def dawn : Instant :=
  ⟨⟨.first, .midnight⟩⟩

/-- The window of all of time, at its start. -/
def allOfTimeWindow : Window :=
  ⟨true, dawn, ⟨⟨.last, { second := 86399, nano := 1000000000 }⟩⟩⟩

theorem allOfTime_window : allOfTime.timing.window dawn = .ok allOfTimeWindow := by
  decide +kernel

/-- Some period that has run has as much time left as there can be. -/
theorem allOfTime_alreadyRun :
    resolve [allOfTime] (some (allOfTime.period allOfTimeWindow).snapshot) false dawn =
      .error (.alreadyRun (allOfTime.period allOfTimeWindow)) := by
  have hopen : allOfTimeWindow.Contains dawn := by decide
  have hdefault : Declaration.defaultRestore.timing.window dawn =
      .ok ⟨true, dawn, ⟨⟨Date.first.addDays 1, .midnight⟩⟩⟩ := by decide +kernel
  have hchoice : choice [allOfTime] false dawn = .ok (allOfTime.period allOfTimeWindow) := by
    unfold choice
    rw [evaluate_ok hdefault, ok_bind, firstActive_open allOfTime_window hopen]
    rfl
  exact resolve_of_hasRun hchoice ⟨rfl, _, rfl, rfl⟩

/-- **The configurations with which no wait is overlong.** A loaded configuration gives every wait
that fits, and the period stage faults exactly for one that does not; there is none of these exactly
when the grace is short enough for the longest time that can be left. -/
theorem one_shot_wait_fits_iff {lookup : Config.Lookup} {config : Config}
    (hload : Config.load lookup = .ok config) :
    (∀ p now, ¬ Period.IsOverlong p now config.settings.grace →
      p.rerunDelay now config.settings.grace =
        .ok ⟨(now.remaining p.window.stop).nanos + config.settings.grace.nanos⟩) ∧
    (∀ steady c f, (Stages.period steady config.settings.grace).execute c =
        Stages.fail (.critical (.fault f)) ↔
      f = .span ∧ c.leavesResources = false ∧ c.access.isNone = false ∧ ∃ x p,
        c.fetched = .ok x ∧
        resolve x.spec.periods x.currentPeriod c.restoreRequested c.now =
          .error (.alreadyRun p) ∧
        p.IsOverlong c.now config.settings.grace) ∧
    ((∀ ds previous requested now p,
        resolve ds previous requested now = .error (.alreadyRun p) →
        ¬ p.IsOverlong now config.settings.grace) ↔
      config.settings.grace.seconds ≤ Settings.longestGrace) := by
  obtain ⟨n, -, hgrace⟩ := Config.grace_of_load hload
  rw [hgrace]
  refine ⟨fun p now => rerunDelay_of_fits, fun steady c f => ?_, ?_, ?_⟩
  · rw [Stages.execute_period_fault_iff]
    simp only [rerunDelay_eq_error_iff]
    constructor
    · rintro ⟨hstays, haccess, x, p, hx, hresolve, rfl, hlong⟩
      exact ⟨rfl, hstays, haccess, x, p, hx, hresolve, hlong⟩
    · rintro ⟨rfl, hstays, haccess, x, p, hx, hresolve, hlong⟩
      exact ⟨hstays, haccess, x, p, hx, hresolve, rfl, hlong⟩
  · intro hfits
    have hleft : (dawn.remaining allOfTimeWindow.stop).seconds = Window.mostSeconds := by decide
    have hsum := hfits _ _ _ _ _ allOfTime_alreadyRun
    unfold Period.IsOverlong at hsum
    rw [Declaration.period, hleft] at hsum
    unfold Settings.longestGrace
    omega
  · exact fun hshort _ _ _ _ _ => not_isOverlong_of_alreadyRun hshort

/-- Where nothing else is said, no wait is overlong. -/
theorem standard_waits_fit : ∃ config, Config.load (fun _ => none) = .ok config ∧
    ∀ ds previous requested now p, resolve ds previous requested now = .error (.alreadyRun p) →
      ¬ p.IsOverlong now config.settings.grace := by
  obtain ⟨config, hload, hsettings⟩ := Config.exists_load (fun _ => none) .standard
    (by decide +kernel)
  obtain ⟨-, -, hiff⟩ := one_shot_wait_fits_iff hload
  refine ⟨config, hload, hiff.mpr ?_⟩
  rw [hsettings]
  decide

/-- Variables that ask for the longest grace. -/
def longestGrace : Config.Lookup := fun name =>
  if name = "RUN_ONCE_GRACE_SECONDS" then some "18446744073709551615" else none

/-- **The longest grace is loaded**, and with it the cycle of a Scaler that has taken its nap ends
with a fault, two hours before the nap is over. -/
theorem longest_grace_overflows : ∃ config p, Config.load longestGrace = .ok config ∧
    resolve [nap] (some ⟨"nap", .down, nap.fingerprint, [], []⟩) false (Instant.ofHour 19877 10) =
      .error (.alreadyRun p) ∧
    p.rerunDelay (Instant.ofHour 19877 10) config.settings.grace = .error .span ∧
    ((Cycle.reconcile config.settings napping.key (Instant.ofHour 19877 10)).run World.answer
      restedWorld).1 = .error (.critical (.fault .span)) := by
  obtain ⟨config, hload, hsettings⟩ := Config.exists_load longestGrace
    { Settings.standard with grace := .ofSeconds 18446744073709551615 }
    (by decide +kernel)
  have hnow : (Instant.ofHour 19877 10).isInner := by decide
  have hchosen : Chosen (Instant.ofHour 19877 10) false ([] ++ nap :: [])
      (.ok (nap.period (openBetween 9 12))) :=
    .opened (by simp) (by decide) (by decide)
  have hrun : (nap.period (openBetween 9 12)).HasRun
      (some ⟨"nap", .down, nap.fingerprint, [], []⟩) := ⟨rfl, _, rfl, rfl⟩
  refine ⟨config, nap.period (openBetween 9 12), hload,
    resolve_of_hasRun ((chosen_iff hnow).mp hchosen).symm hrun, ?_, ?_⟩
  · rw [hsettings]
    exact rerunDelay_of_isOverlong (by decide)
  · rw [hsettings]
    decide +kernel

end Configurations

end PeriodScaler
