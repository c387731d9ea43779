import PeriodScaler.Proofs.Cycle.OneShot
import PeriodScaler.Proofs.Cycle.Ways

/-!
# Waiting for a window to be over

When the period that applies is one-shot and has run, the next cycle is due after the time left in
its window and a grace. The wait is told from this period alone. Until its window is over the
period stays what it is, so no entry declared after it comes to apply; but an entry declared before
it applies as soon as its own window opens, and then the wait goes on over it.

* **`firstActive_while_open`**: what applies first while the window of a period is open.
* **`waits_of_goes`**: how a cycle ends for a period that has run.
* **`one_shot_waits`**: how long such a wait is, and what applies first in the meantime.
* **`nap_over_lunch`**: a wait that goes on over the period of an entry declared before.
-/

namespace PeriodScaler

open Memory (World)

section Wait

variable {now later : Instant} {before after : List Declaration} {d : Declaration} {p : Period}

/-- **What applies first while the window of a period is open**: what does among the entries before
it, and else still the period. -/
theorem firstActive_while_open {w : Window} (hw : d.timing.window now = .ok w)
    (hopen : w.Contains now) (hlater : w.Contains later)
    (hthere : ∃ w', d.timing.window later = .ok w') :
    firstActive later (before ++ d :: after) =
      (firstActive later before).map fun found => some (found.getD (d.period w)) := by
  obtain ⟨w', hw'⟩ := hthere
  obtain rfl := Timing.window_lasts hw ((Timing.window_active_iff hw).mpr hopen) hlater hw'
  rw [firstActive_append_eq, firstActive_open hw' hlater]
  cases firstActive later before with
  | error e => rfl
  | ok found => cases found <;> rfl

/-- An entry that was closed now has another window than one which is open now. -/
theorem window_ne_of_isClosed {e : Declaration} {w w' : Window} (hclosed : e.IsClosed now)
    (hw : w.Contains now) (hlater : w'.Contains later) (hw' : e.timing.window later = .ok w') :
    w' ≠ w := by
  rintro rfl
  obtain ⟨v, hv, hout⟩ := hclosed
  obtain rfl := Timing.window_lasts hw' ((Timing.window_active_iff hw').mpr hlater) hw hv
  exact hout hw

/-- The period still applies first exactly while the entries before it are closed. -/
theorem firstActive_eq_iff_closed {w : Window} (hw : d.timing.window now = .ok w)
    (hopen : w.Contains now) (hlater : w.Contains later)
    (hthere : ∃ w', d.timing.window later = .ok w')
    (hbefore : ∀ e ∈ before, Declaration.IsClosed now e) :
    firstActive later (before ++ d :: after) = .ok (some (d.period w)) ↔
      ∀ e ∈ before, Declaration.IsClosed later e := by
  rw [firstActive_while_open hw hopen hlater hthere, ← firstActive_eq_none]
  cases hfirst : firstActive later before with
  | error e =>
    refine iff_of_false nofun nofun
  | ok found =>
    cases found with
    | none => exact iff_of_true rfl rfl
    | some q =>
      refine iff_of_false (fun heq => ?_) nofun
      obtain ⟨front, e, rest, w', rfl, -, hw', hcontains, rfl⟩ := firstActive_eq_some.mp hfirst
      have hclosed := hbefore e (List.mem_append_right _ List.mem_cons_self)
      have hsame : e.period w' = d.period w := Option.some.inj (Except.ok.inj heq)
      exact window_ne_of_isClosed hclosed hopen hcontains hw' (congrArg Period.window hsame)

end Wait

/-! ## A cycle that waits -/

section Cycle

variable {settings : Settings} {key : Key} {now : Instant} {o : Outcome}

/-- **How a cycle ends for a period that has run**: no other one that succeeds is stopped by the
period stage without a period. -/
theorem waits_of_goes {l : List collaborators.Exchange}
    (h : Cycle.Goes settings key now l (.ok o)) (hstopped : o.stoppedBy = some "period")
    (hperiod : o.period = none) : ∃ v access p delay,
      (⟨.connect v, .ok access⟩ : collaborators.Exchange) ∈ l ∧
      resolve v.spec.periods v.currentPeriod false now = .error (.alreadyRun p) ∧
      p.rerunDelay now settings.grace = .ok delay ∧ o.requeue = Cycle.asked delay := by
  cases h with
  | ignored hdeleting hbare => simp at hstopped
  | departed hdeleting hmarked h =>
    cases h with
    | released hrestored hrelease => simp at hstopped
  | served hlive htries hserves =>
    cases hserves with
    | waits h hdelay =>
      exact ⟨_, _, _, _, List.mem_cons_of_mem _
        (List.mem_append_right _ List.mem_cons_self), h, hdelay, rfl⟩
    | idle h hidle => cases hperiod
    | recorded h hidle hpass hrecord => cases hstopped

/-- **How long a cycle waits for a one-shot period to be over**, whatever answers its calls, and
what applies first in the meantime. The delay is the time left in the window of the period and the
grace. At every instant until the window is over, ten days inside the range of dates or else with a
window of the period still to be told, what applies first is an entry declared before the period if
one is open then, and else still the period; so the period does exactly while the entries before it
are closed. -/
theorem one_shot_waits {σ : Type} {h : Handler collaborators σ} {t : σ} {delay : Span}
    (ho : ((Cycle.reconcile settings key now).run h t).1 = .ok o)
    (hstopped : o.stoppedBy = some "period") (hperiod : o.period = none)
    (hdelay : o.requeue = some delay) : ∃ v access p before d after,
      (⟨.connect v, .ok access⟩ : collaborators.Exchange) ∈
        (Cycle.reconcile settings key now).transcript h t ∧
      v.spec.periods = before ++ d :: after ∧ p = Declaration.period d p.window ∧
      d.timing.window now = .ok p.window ∧ p.window.Contains now ∧
      (∀ e ∈ before, Declaration.IsClosed now e) ∧ p.HasRun v.currentPeriod ∧
      delay.nanos = (now.remaining p.window.stop).nanos + settings.grace.nanos ∧
      ∀ later, now < later → later < p.window.stop →
        later.isInner ∨ (∃ w, d.timing.window later = .ok w) →
        firstActive later v.spec.periods =
          (firstActive later before).map (fun found => some (found.getD p)) ∧
        (firstActive later v.spec.periods = .ok (some p) ↔
          ∀ e ∈ before, Declaration.IsClosed later e) := by
  have hgoes := Cycle.goes_run h settings key now t
  rw [ho] at hgoes
  obtain ⟨v, access, p, wait, hconnect, hresolve, hwait, hrequeue⟩ :=
    waits_of_goes hgoes hstopped hperiod
  obtain rfl : wait = delay := by
    rw [hdelay, Cycle.asked] at hrequeue
    split at hrequeue
    · cases hrequeue
    · exact (Option.some.inj hrequeue).symm
  obtain ⟨hrun, hfirst⟩ := firstActive_of_alreadyRun hresolve
  obtain ⟨before, d, after, w, hperiods, hclosed, hw, hopen, rfl⟩ := firstActive_eq_some.mp hfirst
  refine ⟨v, access, d.period w, before, d, after, hconnect, hperiods, rfl, hw, hopen, hclosed,
    hrun, (Span.add_eq_ok.mp hwait).1, fun later hnow hstop htold => ?_⟩
  have hthere : ∃ w', d.timing.window later = .ok w' :=
    htold.elim (Timing.window_of_isInner hw) id
  have hstart : w.start ≤ later := by
    have hbegun := hopen.1
    rw [Instant.le_iff_utc, DateTime.le_iff_stamp] at hbegun ⊢
    rw [Instant.lt_iff_utc, DateTime.lt_iff_stamp] at hnow
    exact Int.le_of_lt (Int.lt_of_le_of_lt hbegun hnow)
  rw [hperiods]
  exact ⟨firstActive_while_open hw hopen ⟨hstart, hstop⟩ hthere,
    firstActive_eq_iff_closed hw hopen ⟨hstart, hstop⟩ hthere hclosed⟩

end Cycle

/-! ## A nap and a lunch -/

/-- A nap until the evening, to be taken once. -/
def longNap : Declaration where
  name := "nap"
  target := .down
  timing := .recurring
    { days := ["all"], startTime := "09:00", endTime := "17:00", once := true, timeZone := none }

/-- A lunch at noon, every day. -/
def lunch : Declaration where
  name := "lunch"
  target := .up
  timing := .recurring
    { days := ["all"], startTime := "11:00", endTime := "12:00", once := false, timeZone := none }

/-- A Scaler that is to have lunch before all and has taken its nap. -/
def drowsy : Scaler :=
  let plain := Scaler.plain "default" "nightly"
  { plain with
    metadata := { plain.metadata with finalizers := some [Scaler.finalizer] }
    spec := { plain.spec with periods := [lunch, longNap] }
    status := some
      { current := some ⟨"nap", .down, longNap.fingerprint, [], []⟩, comments := none } }

/-- A world with this Scaler. -/
def drowsyWorld : World :=
  { World.empty (.leadsTo .kubernetes) with store := (Memory.Store.empty.insert drowsy).2 }

/-- An open window between two hours of 3 June 2024. -/
def openBetween (start stop : Fin 24) : Window :=
  ⟨true, Instant.ofHour 19877 start, Instant.ofHour 19877 stop⟩

theorem longNap_window :
    longNap.timing.window (Instant.ofHour 19877 10) = .ok (openBetween 9 17) := by
  decide

/-- The end of the cycle at 10:00: it waits for seven hours and a minute. -/
theorem drowsy_waits : ((Cycle.reconcile .standard drowsy.key (Instant.ofHour 19877 10)).run
    World.answer drowsyWorld).1 = .ok ⟨some (.ofSeconds 25260), some "period", none, .empty⟩ := by
  decide +kernel

/-- After lunch the nap applies first again, though its cycle has been waiting since 10:00. -/
theorem drowsy_after_lunch : ∃ p, p.HasRun drowsy.currentPeriod ∧
    p.window.Contains (Instant.ofHour 19877 10) ∧
    firstActive (Instant.ofHour 19877 14) drowsy.spec.periods = .ok (some p) := by
  have hcalls : ((Cycle.reconcile .standard drowsy.key (Instant.ofHour 19877 10)).transcript
      World.answer drowsyWorld).map (fun e => (e.call : Call)) =
        [.fetch drowsy.key, .connect (Memory.Store.withVersion 1 drowsy)] := by
    decide +kernel
  obtain ⟨v, access, p, before, d, after, hconnect, hperiods, hp, hw, hopen, -, hrun, -, hlater⟩ :=
    one_shot_waits drowsy_waits rfl rfl rfl
  obtain rfl : v = Memory.Store.withVersion 1 drowsy := by
    have hmem := List.mem_map_of_mem (f := fun e => (e.call : Call)) hconnect
    rw [hcalls] at hmem
    simpa using hmem
  have hsplit : before = [lunch] ∧ d = longNap := by
    rcases before with _ | ⟨e, _ | ⟨e', before⟩⟩
    · obtain ⟨rfl, -⟩ := List.cons.inj hperiods
      rw [hp] at hrun
      cases hrun.1
    · obtain ⟨rfl, hrest⟩ := List.cons.inj hperiods
      exact ⟨rfl, (List.cons.inj hrest).1.symm⟩
    · have hlength := congrArg List.length hperiods
      simp [drowsy, Memory.Store.withVersion] at hlength
  obtain ⟨rfl, rfl⟩ := hsplit
  have hwindow : p.window = openBetween 9 17 := Except.ok.inj (hw.symm.trans longNap_window)
  have hclosed : lunch.IsClosed (Instant.ofHour 19877 14) :=
    ⟨⟨false, Instant.ofHour 19878 11, Instant.ofHour 19878 12⟩, by decide, by decide⟩
  have hnow : Instant.ofHour 19877 10 < Instant.ofHour 19877 14 := by decide
  have hstop : Instant.ofHour 19877 14 < p.window.stop := by
    rw [hwindow]
    decide
  obtain ⟨-, hfirst⟩ := hlater _ hnow hstop (Or.inl (by decide))
  exact ⟨p, hrun, hopen, hfirst.mpr (List.forall_mem_singleton.mpr hclosed)⟩

/-- **A wait that goes on over the period of an entry declared before**: at 10:00 the cycle asks for
the next one after the nap is over, and at 11:00 it is lunch that applies first. -/
theorem nap_over_lunch :
    ((Cycle.reconcile .standard drowsy.key (Instant.ofHour 19877 10)).run World.answer
      drowsyWorld).1 = .ok ⟨some (.ofSeconds 25260), some "period", none, .empty⟩ ∧
    resolve drowsy.spec.periods drowsy.currentPeriod false (Instant.ofHour 19877 10) =
      .error (.alreadyRun (longNap.period (openBetween 9 17))) ∧
    Instant.ofHour 19877 10 < Instant.ofHour 19877 11 ∧
    (Instant.ofHour 19877 10).nanosFrom (Instant.ofHour 19877 11) +
      Settings.standard.grace.nanos < (Span.ofSeconds 25260).nanos ∧
    firstActive (Instant.ofHour 19877 11) drowsy.spec.periods =
      .ok (some (lunch.period (openBetween 11 12))) := by
  have hnow : (Instant.ofHour 19877 10).isInner := by decide
  have hbefore : lunch.IsClosed (Instant.ofHour 19877 10) :=
    ⟨{ openBetween 11 12 with active := false }, by decide, by decide⟩
  have hlunch : lunch.timing.window (Instant.ofHour 19877 11) = .ok (openBetween 11 12) := by decide
  refine ⟨drowsy_waits, ?_, by decide, by decide, ?_⟩
  · have hchosen : Chosen (Instant.ofHour 19877 10) false ([lunch] ++ longNap :: [])
        (.ok (longNap.period (openBetween 9 17))) :=
      .opened (List.forall_mem_singleton.mpr hbefore) longNap_window (by decide)
    exact resolve_of_hasRun (hchosen.eq_choice hnow).symm ⟨rfl, _, rfl, rfl⟩
  · exact firstActive_eq_some.mpr ⟨[], lunch, [longNap], openBetween 11 12, rfl,
      fun _ h => absurd h List.not_mem_nil, hlunch, by decide, rfl⟩

end PeriodScaler
