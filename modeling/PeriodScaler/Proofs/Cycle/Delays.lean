import PeriodScaler.Controller.Config
import PeriodScaler.Proofs.Cycle.OneShot
import PeriodScaler.Proofs.Cycle.Ways

/-!
# When a Scaler is seen again

A delay of no time at all is not asked for, and a cycle without a delay is the last one until
something happens to its Scaler. So a live Scaler is forgotten unless every delay that its cycles
ask for is more than nothing. The steady one is, since a configuration with none is not loaded; and
the wait for a period that has run is, since that period is open, so its window has time left.

* **`Config.nonzero_of_load`**: a loaded configuration has no empty delay, the grace excepted.
* **`rerunDelay_of_contains`**: the wait for a window to be over is longer than the grace.
* **`nextVisit_of_serves`**: the delay that the cycle of a live Scaler asks for.
* **`seen_again`**: a cycle that succeeds asks for no other one exactly when its Scaler goes away.
-/

namespace PeriodScaler

open Memory (World)

/-! ## Configurations -/

namespace Config

variable {lookup : Lookup}

theorem positiveSeconds_ne_zero {name : String} {default value : Span}
    (h : positiveSeconds lookup name default = .ok value) : value.isZero = false := by
  obtain ⟨found, -, h⟩ := bind_eq_ok.mp h
  split at h
  · cases h
  · rename_i hzero
    obtain rfl := Except.ok.inj h
    exact Bool.not_eq_true _ ▸ hzero

/-- **What a loaded configuration holds is not nothing**, the grace excepted. -/
theorem nonzero_of_load {config : Config} (h : load lookup = .ok config) :
    config.settings.steady.isZero = false ∧ config.settings.afterError.isZero = false ∧
      config.settings.attempts ≠ 0 := by
  obtain ⟨steady, hsteady, h⟩ := bind_eq_ok.mp h
  obtain ⟨afterError, hafter, h⟩ := bind_eq_ok.mp h
  obtain ⟨grace, -, h⟩ := bind_eq_ok.mp h
  -- the number of attempts is given or left out, and either is checked
  simp only at h
  split at h
  all_goals
    obtain ⟨attempts, -, h⟩ := bind_eq_ok.mp h
    split at h
    · cases h
    · rename_i hattempts
      split at h
      · cases h
      · obtain rfl := Except.ok.inj h
        exact ⟨positiveSeconds_ne_zero hsteady, positiveSeconds_ne_zero hafter, hattempts⟩

/-- A configuration that is loaded, by its settings. -/
theorem exists_load (lookup : Lookup) (settings : Settings)
    (h : (load lookup).toOption.map Config.settings = some settings) :
    ∃ config, load lookup = .ok config ∧ config.settings = settings := by
  cases hload : load lookup with
  | error e =>
    rw [hload] at h
    cases h
  | ok config =>
    rw [hload] at h
    exact ⟨config, rfl, Option.some.inj h⟩

end Config

/-! ## Delays -/

theorem Span.isZero_eq_false_iff {d : Span} : d.isZero = false ↔ 0 < d.nanos := by
  rw [isZero, beq_eq_false_iff_ne, Nat.pos_iff_ne_zero]

theorem Cycle.asked_of_pos {d : Span} (h : 0 < d.nanos) : Cycle.asked d = some d := by
  rw [Cycle.asked, Span.isZero_eq_false_iff.mpr h, if_neg Bool.false_ne_true]

/-- **The wait for a window to be over** is the time left in it and the grace, and longer than the
grace alone. -/
theorem rerunDelay_of_contains {p : Period} {now : Instant} {grace d : Span}
    (hnow : now.isRegular) (hopen : p.window.Contains now)
    (h : p.rerunDelay now grace = .ok d) :
    (d.nanos : Int) = now.nanosFrom p.window.stop + grace.nanos ∧ grace.nanos < d.nanos := by
  have hpos := Instant.nanosFrom_pos hnow hopen.2
  have hsum := (Span.add_eq_ok.mp h).1
  unfold Instant.remaining at hsum
  simp only at hsum
  omega

/-! ## The next cycle -/

namespace Cycle

/-- The delay that the cycle of a live Scaler asks for: the steady one, or the wait for the window
of a period that has run to be over. -/
inductive NextVisit (s : Settings) (now : Instant) (v : Scaler) : Span → Prop where
  | steady
    (h : ∀ p, resolve v.spec.periods v.currentPeriod false now ≠ .error (.alreadyRun p)) :
    NextVisit s now v s.steady
  | afterWindow {p d}
    (h : resolve v.spec.periods v.currentPeriod false now = .error (.alreadyRun p))
    (hopen : p.window.Contains now)
    (hleft : (d.nanos : Int) = now.nanosFrom p.window.stop + s.grace.nanos)
    (hgrace : s.grace.nanos < d.nanos) : NextVisit s now v d

variable {s : Settings} {key : Key} {now : Instant} {v : Scaler}
  {l : List collaborators.Exchange} {o : Outcome}

/-- **The delay that the cycle of a live Scaler asks for.** -/
theorem nextVisit_of_serves (hsteady : 0 < s.steady.nanos) (hnow : now.isRegular)
    (h : Serves s key now v l (.ok o)) :
    (∃ access, (⟨.connect v, .ok access⟩ : collaborators.Exchange) ∈ l) ∧
      (o.stoppedBy = none ∨ o.stoppedBy = some "period") ∧
      ∃ d, o.requeue = some d ∧ 0 < d.nanos ∧ NextVisit s now v d := by
  cases h with
  | @waits access p delay h hdelay =>
    obtain ⟨-, hfirst⟩ := firstActive_of_alreadyRun h
    obtain ⟨_, _, _, w, -, -, -, hopen, rfl⟩ := firstActive_eq_some.mp hfirst
    obtain ⟨hleft, hgrace⟩ := rerunDelay_of_contains hnow hopen hdelay
    have hpos : 0 < delay.nanos := Nat.lt_of_le_of_lt (Nat.zero_le _) hgrace
    exact ⟨⟨access, List.mem_cons_self⟩, Or.inr rfl, delay, asked_of_pos hpos, hpos,
      .afterWindow h hopen hleft hgrace⟩
  | @idle access r h hidle =>
    refine ⟨⟨access, List.mem_cons_self⟩, Or.inr rfl, s.steady, asked_of_pos hsteady, hsteady,
      .steady fun p hp => ?_⟩
    cases h.symm.trans hp
  | @recorded access r pass report writes y h hidle hpass hrecord =>
    refine ⟨⟨access, List.mem_cons_self⟩, Or.inl rfl, s.steady, asked_of_pos hsteady, hsteady,
      .steady fun p hp => ?_⟩
    cases h.symm.trans hp

/-- **A cycle that succeeds asks for no other one exactly when its Scaler goes away**, whatever
answers its calls, with a configuration that was loaded and outside leap seconds. It was ended by
the finalizer stage for a Scaler that is being deleted and has no marker, or by the last stage,
which released the marker. For every other Scaler it asks for a delay that is more than nothing:
the wait for a period that has run, longer than the grace, or else the steady one. -/
theorem seen_again {σ : Type} {h : Handler collaborators σ} {t : σ} {lookup : Config.Lookup}
    {config : Config} (hconfig : Config.load lookup = .ok config) (hnow : now.isRegular)
    (ho : ((reconcile config.settings key now).run h t).1 = .ok o) :
    ∃ x rest, (reconcile config.settings key now).transcript h t =
        ⟨.fetch key, .ok (some x)⟩ :: rest ∧
      (o.requeue = none ↔ o.stoppedBy = some "finalizer" ∨ o.stoppedBy = some "status") ∧
      (o.stoppedBy = some "finalizer" ↔ x.isDeleting = true ∧ x.isMarked = false) ∧
      (o.stoppedBy = some "status" ↔ x.isDeleting = true ∧ x.isMarked = true) ∧
      (o.stoppedBy = some "status" → ∃ before writes y, rest = before ++ writes ∧
        Change.removeFinalizer.Tries x.key x writes (.ok y)) ∧
      (x.isDeleting = false → ∃ v access d,
        (⟨.connect v, .ok access⟩ : collaborators.Exchange) ∈ rest ∧
        o.requeue = some d ∧ 0 < d.nanos ∧ NextVisit config.settings now v d) := by
  have hsteady := Span.isZero_eq_false_iff.mp (Config.nonzero_of_load hconfig).1
  have hgoes := goes_run h config.settings key now t
  rw [ho] at hgoes
  generalize (reconcile config.settings key now).transcript h t = l at hgoes ⊢
  cases hgoes with
  | @ignored x hdeleting hbare =>
    refine ⟨x, [], rfl, ?_⟩
    simp [hdeleting, hbare]
  | @departed x rest _ hdeleting hmarked h =>
    cases h with
    | @released before period report writes y hrestored hrelease =>
      refine ⟨x, before ++ writes, rfl, iff_of_true rfl (Or.inr rfl), ?_,
        iff_of_true rfl ⟨hdeleting, hmarked⟩, fun _ => ⟨before, writes, y, rfl, hrelease⟩, ?_⟩
      · simp [hmarked]
      · intro hlive
        cases hdeleting.symm.trans hlive
  | @served x v writes rest _ hlive htries hserves =>
    obtain ⟨⟨access, hconnect⟩, hstopped, d, hd, hpos, hnext⟩ :=
      nextVisit_of_serves hsteady hnow hserves
    have hfinalizer : o.stoppedBy ≠ some "finalizer" := by
      rcases hstopped with h | h <;> simp [h]
    have hstatus : o.stoppedBy ≠ some "status" := by
      rcases hstopped with h | h <;> simp [h]
    have hstays : ¬ x.isDeleting = true := by simp [hlive]
    refine ⟨x, writes ++ rest, rfl, iff_of_false ?_ (not_or.mpr ⟨hfinalizer, hstatus⟩),
      iff_of_false hfinalizer fun h => hstays h.1, iff_of_false hstatus fun h => hstays h.1,
      fun h => absurd h hstatus,
      fun _ => ⟨v, access, d, List.mem_append_right _ hconnect, hd, hpos, hnext⟩⟩
    rw [hd]
    exact Option.some_ne_none d

end Cycle

/-! ## A nap that was taken -/

/-- A world with one Scaler, which has a nap as its only period and has taken it. -/
def restedWorld : World :=
  { World.empty (.leadsTo .kubernetes) with
    store := (Memory.Store.empty.insert { napping with
      status := some
        { current := some ⟨"nap", .down, nap.fingerprint, [], []⟩, comments := none } }).2 }

/-- At 10:00 the Scaler is to be seen again a minute after the nap is over. -/
theorem rested_seenAgain : ∃ config o, Config.load (fun _ => none) = .ok config ∧
    ((Cycle.reconcile config.settings napping.key (Instant.ofHour 19877 10)).run World.answer
      restedWorld).1 = .ok o ∧
    o.requeue = some (.ofSeconds 7260) ∧
    config.settings.grace.nanos < (Span.ofSeconds 7260).nanos := by
  obtain ⟨config, hconfig, hsettings⟩ := Config.exists_load (fun _ => none) .standard
    (by decide +kernel)
  have ho : ((Cycle.reconcile config.settings napping.key (Instant.ofHour 19877 10)).run
      World.answer restedWorld).1 =
        .ok ⟨some (.ofSeconds 7260), some "period", none, .empty⟩ := by
    rw [hsettings]
    decide +kernel
  have hnow : (Instant.ofHour 19877 10).isRegular := by decide
  obtain ⟨x, rest, -, -, hfinalizer, hstatus, -, hlive⟩ := Cycle.seen_again hconfig hnow ho
  have hstays : x.isDeleting = false := by
    by_contra hdeleting
    rw [Bool.not_eq_false] at hdeleting
    cases hmarked : x.isMarked with
    | true => simpa using hstatus.mpr ⟨hdeleting, hmarked⟩
    | false => simpa using hfinalizer.mpr ⟨hdeleting, hmarked⟩
  obtain ⟨v, access, d, -, hd, -, hnext⟩ := hlive hstays
  obtain rfl := Option.some.inj hd
  refine ⟨config, _, hconfig, ho, rfl, ?_⟩
  generalize hdelay : Span.ofSeconds 7260 = d at hnext
  cases hnext with
  | steady h =>
    rw [hsettings] at hdelay
    cases hdelay
  | afterWindow h hopen hleft hgrace => exact hgrace

end PeriodScaler
