import PeriodScaler.Proofs.Answers
import PeriodScaler.Proofs.Cycle.Ending

/-!
# One-shot periods over whole runs

The only memory of a one-shot period is the fingerprint in the record of the last pass, which every
other period overwrites. So a one-shot period that was applied is not applied again as long as no
other period is recorded, and it is applied again in the next cycle at which it is due once another
one has been.

* **`CycleRun.split`**: the record in the middle of a run is that of the last period recorded.
* **`CycleEnd.applies_iff`**: in which cycles a one-shot period is applied.
* **`CycleRun.applies_again_iff`**: when a one-shot period is applied again.
* **`one_shots_applied_once_iff`**: when every one-shot period is applied at most once.
-/

namespace PeriodScaler

open Memory (World)

/-! ## Runs of cycles -/

/-- Cycles for one Scaler at some instants, one after the other. -/
def Cycle.reconcileAll (settings : Settings) (key : Key) :
    List Instant → Work (List (Except CycleError Outcome))
  | [] => .done []
  | now :: rest => do
    let first ← reconcile settings key now
    let others ← reconcileAll settings key rest
    return first :: others

/-- A run of cycles that do not fail, each on the record that the one before left. -/
inductive CycleRun (periods : List Declaration) :
    Option PassRecord → List (Instant × Outcome) → Prop where
  | nil {previous} : CycleRun periods previous []
  | cons {previous now o record rest} (hend : CycleEnd periods previous now o record)
    (hrest : CycleRun periods record rest) : CycleRun periods previous ((now, o) :: rest)

section Cycles

variable {key : Key} {spec : Spec} {i : Interference World} (hi : i.KeepsScaler key)

include hi

/-- **Cycles that all succeed are a run.** -/
theorem ensures_reconcileAll (settings : Settings) : ∀ {nows : List Instant}
    {status : Option Status}, (Cycle.reconcileAll settings key nows).Ensures
      (i.around World.answer) (Holding key spec status) fun answers _ =>
        ∀ outcomes, answers = outcomes.map .ok →
          CycleRun spec.periods (status.bind Status.current) (nows.zip outcomes)
  | [], status => Program.Ensures.done fun _ _ _ _ => .nil
  | now :: rest, status => by
    unfold Cycle.reconcileAll
    refine (ensures_reconcile hi settings now).bind fun first => ?_
    cases first with
    | error e =>
      intro s _ outcomes houtcomes
      rw [Program.bind_eq, Program.run_bind] at houtcomes
      cases outcomes <;> cases houtcomes
    | ok o =>
      refine Program.Ensures.start fun s hs => ?_
      obtain ⟨after, hafter, hend⟩ := hs o rfl
      refine ⟨Holding key spec after, hafter, ?_⟩
      refine Program.Ensures.bind (ensures_reconcileAll settings) fun others => ?_
      refine Program.Ensures.done fun t ht outcomes houtcomes => ?_
      cases outcomes with
      | nil => cases houtcomes
      | cons o' outcomes =>
        obtain ⟨hhead, htail⟩ := List.cons.inj houtcomes
        obtain rfl := Except.ok.inj hhead
        exact .cons hend (ht outcomes htail)

end Cycles

/-! ## What is recorded -/

namespace Outcome

/-- The period that a cycle recorded, if it came to that. -/
def recorded (o : Outcome) : Option Period :=
  if o.stoppedBy = none then o.period else none

/-- The cycle applied a one-shot period of this fingerprint: it resolved to the period and was not
stopped before the resources were brought to its target. -/
def Applies (fingerprint : String) (o : Outcome) : Prop :=
  o.stoppedBy ≠ some "period" ∧
    ∃ p, o.period = some p ∧ p.once = true ∧ p.fingerprint = fingerprint

/-- The Scaler did not go away in the cycle. -/
def IsLive (o : Outcome) : Prop :=
  o.stoppedBy = none ∨ o.stoppedBy = some "period"

end Outcome

/-- The last period that was recorded in a run. -/
def lastRecorded : List (Instant × Outcome) → Option Period
  | [] => none
  | (_, o) :: rest => (lastRecorded rest).or o.recorded

/-- A record is that of a period, or the one from before when no period was recorded. -/
def IsRecordOf (previous : Option PassRecord) : Option Period → Option PassRecord → Prop
  | none, record => record = previous
  | some p, record => ∃ r, record = some r ∧ r.fingerprint = p.fingerprint ∧ r.target = p.target

section Run

variable {periods : List Declaration} {previous : Option PassRecord} {now : Instant} {o : Outcome}
  {record : Option PassRecord} {history rest : List (Instant × Outcome)} {fingerprint : String}

theorem CycleEnd.isRecordOf (h : CycleEnd periods previous now o record) :
    IsRecordOf previous o.recorded record := by
  cases h with
  | applied hr hidle hstop hperiod hfingerprint htarget =>
    rw [Outcome.recorded, if_pos hstop, hperiod]
    exact ⟨_, rfl, hfingerprint, htarget⟩
  | hasRun hp hstop hperiod =>
    rw [Outcome.recorded, if_neg (by rw [hstop]; exact nofun)]
    rfl
  | idle hr hidle hstop hperiod =>
    rw [Outcome.recorded, if_neg (by rw [hstop]; exact nofun)]
    rfl
  | leaving hstop hperiod =>
    rw [Outcome.recorded, if_neg (by rcases hstop with h | h <;> rw [h] <;> exact nofun)]
    rfl

/-- **The record in the middle of a run** is that of the last period recorded. -/
theorem CycleRun.split (h : CycleRun periods previous (history ++ rest)) :
    ∃ middle, IsRecordOf previous (lastRecorded history) middle ∧
      CycleRun periods middle rest := by
  induction history generalizing previous with
  | nil => exact ⟨previous, rfl, h⟩
  | cons e history ih =>
    cases h with
    | cons hend hrest =>
      obtain ⟨middle, hmiddle, hrun⟩ := ih hrest
      refine ⟨middle, ?_, hrun⟩
      have hrecord := hend.isRecordOf
      unfold lastRecorded
      cases hlast : lastRecorded history with
      | some p =>
        rw [hlast] at hmiddle
        exact hmiddle
      | none =>
        rw [hlast] at hmiddle
        obtain rfl := hmiddle
        exact hrecord

/-- The period that applies is one-shot with this fingerprint, is not the recorded one, and asks for
something or follows a period that did. -/
def IsDue (periods : List Declaration) (previous : Option PassRecord) (now : Instant)
    (fingerprint : String) : Prop :=
  ∃ p, choice periods false now = .ok p ∧ p.once = true ∧ p.fingerprint = fingerprint ∧
    (∀ r, previous = some r → r.fingerprint ≠ fingerprint) ∧
    ¬ (p.target = .noAction ∧ ∃ r, previous = some r ∧ r.target = .noAction)

/-- **In which cycles a one-shot period is applied.** -/
theorem CycleEnd.applies_iff (h : CycleEnd periods previous now o record) :
    o.Applies fingerprint ↔ o.IsLive ∧ IsDue periods previous now fingerprint := by
  cases h with
  | @applied r _ record hr hidle hstop hperiod =>
    obtain ⟨hchoice, hrun, hprevious, -⟩ := resolve_eq_ok_iff.mp hr
    rw [← Bool.not_eq_true, Resolution.isIdle_iff, hprevious] at hidle
    constructor
    · rintro ⟨-, p, hp, honce, rfl⟩
      obtain rfl := Option.some.inj (hperiod.symm.trans hp)
      exact ⟨Or.inl hstop, _, hchoice, honce, rfl,
        fun q hq hsame => hrun ⟨honce, q, hq, hsame⟩, hidle⟩
    · rintro ⟨-, p, hp, honce, rfl, -, -⟩
      obtain rfl := Except.ok.inj (hchoice.symm.trans hp)
      exact ⟨by rw [hstop]; exact nofun, _, hperiod, honce, rfl⟩
  | @hasRun p _ hp hstop hperiod =>
    refine iff_of_false (fun h => h.1 hstop) ?_
    rintro ⟨-, q, hq, honce, rfl, hfresh, -⟩
    rw [resolve_eq, hq, ok_bind] at hp
    split at hp
    · rename_i hrun
      obtain ⟨-, r, hr, hsame⟩ := Period.hasRun_iff.mpr hrun
      exact hfresh r hr hsame
    · cases hp
  | @idle r _ hr hidle hstop hperiod =>
    refine iff_of_false (fun h => h.1 hstop) ?_
    obtain ⟨hchoice, -, hprevious, -⟩ := resolve_eq_ok_iff.mp hr
    rw [Resolution.isIdle_iff, hprevious] at hidle
    rintro ⟨-, q, hq, -, -, -, hbusy⟩
    obtain rfl := Except.ok.inj (hchoice.symm.trans hq)
    exact hbusy hidle
  | leaving hstop hperiod =>
    refine iff_of_false ?_ ?_
    · rintro ⟨-, p, hp, honce, -⟩
      rw [hperiod p hp] at honce
      cases honce
    · rintro ⟨hlive | hlive, -⟩
      · rcases hstop with h | h <;> rw [h] at hlive <;> cases hlive
      · rcases hstop with h | h <;> rw [h] at hlive <;> revert hlive <;> decide

/-- A cycle that applied a one-shot period has recorded it. -/
theorem CycleEnd.record_of_applies (h : CycleEnd periods previous now o record)
    (happlied : o.Applies fingerprint) :
    ∃ r, record = some r ∧ r.fingerprint = fingerprint := by
  obtain ⟨hstop, p, hp, honce, rfl⟩ := happlied
  cases h with
  | applied hr hidle hlive hperiod hfingerprint htarget =>
    obtain rfl := Option.some.inj (hperiod.symm.trans hp)
    exact ⟨_, rfl, hfingerprint⟩
  | hasRun hrun hstopped hperiod => exact absurd hstopped hstop
  | idle hr hidle hstopped hperiod => exact absurd hstopped hstop
  | leaving hleaving hperiod =>
    rw [hperiod p hp] at honce
    cases honce

/-- After a one-shot period was applied, it is due again when another one is recorded. -/
theorem isDue_iff_of_isRecordOf {first : PassRecord} (hfirst : first.fingerprint = fingerprint)
    {last : Option Period} (h : IsRecordOf (some first) last record) :
    IsDue periods record now fingerprint ↔ ∃ p q, choice periods false now = .ok p ∧
      p.once = true ∧ p.fingerprint = fingerprint ∧ last = some q ∧
      q.fingerprint ≠ fingerprint ∧ ¬ (p.target = .noAction ∧ q.target = .noAction) := by
  cases last with
  | none =>
    obtain rfl := h
    refine iff_of_false ?_ ?_
    · rintro ⟨p, -, -, -, hfresh, -⟩
      exact hfresh first rfl hfirst
    · rintro ⟨p, q, -, -, -, hq, -⟩
      cases hq
  | some q =>
    obtain ⟨r, rfl, hfingerprint, htarget⟩ := h
    constructor
    · rintro ⟨p, hp, honce, hsame, hfresh, hbusy⟩
      refine ⟨p, q, hp, honce, hsame, rfl, hfingerprint ▸ hfresh r rfl, fun hidle => hbusy ?_⟩
      exact ⟨hidle.1, r, rfl, htarget.trans hidle.2⟩
    · rintro ⟨p, _, hp, honce, hsame, ⟨⟩, hother, hbusy⟩
      refine ⟨p, hp, honce, hsame, ?_, ?_⟩
      · rintro _ ⟨⟩
        exact hfingerprint ▸ hother
      · rintro ⟨hidle, _, ⟨⟩, hidle'⟩
        exact hbusy ⟨hidle, htarget ▸ hidle'⟩

/-- **When a one-shot period is applied again**: when it is the period that applies to a Scaler that
does not go away, and the last period recorded since is another one. -/
theorem CycleRun.applies_again_iff {before between after : List (Instant × Outcome)}
    {t t' : Instant} {o o' : Outcome}
    (h : CycleRun periods previous (before ++ (t, o) :: (between ++ (t', o') :: after)))
    (happlied : o.Applies fingerprint) :
    o'.Applies fingerprint ↔ o'.IsLive ∧ ∃ p q, choice periods false t' = .ok p ∧
      p.once = true ∧ p.fingerprint = fingerprint ∧ lastRecorded between = some q ∧
      q.fingerprint ≠ fingerprint ∧ ¬ (p.target = .noAction ∧ q.target = .noAction) := by
  obtain ⟨_, -, h⟩ := h.split
  obtain _ | ⟨hend, hrest⟩ := h
  obtain ⟨first, rfl, hfirst⟩ := hend.record_of_applies happlied
  obtain ⟨middle, hmiddle, hrest⟩ := hrest.split
  obtain _ | ⟨hend', -⟩ := hrest
  rw [hend'.applies_iff, isDue_iff_of_isRecordOf hfirst hmiddle]

end Run

/-! ## At most once -/

/-- At most one cycle of a history applies a one-shot period of this fingerprint. -/
def AppliedOnce (fingerprint : String) (history : List (Instant × Outcome)) : Prop :=
  ∀ before t o between t' o' after,
    history = before ++ (t, o) :: (between ++ (t', o') :: after) →
      o.Applies fingerprint → ¬ o'.Applies fingerprint

/-- **When one-shot periods are applied at most once.** A Scaler is reconciled at some instants. Its
specification is not edited and no one else writes its status, and all cycles succeed. Then every
one-shot period is applied at most once exactly when none of them comes to apply once more, to a
Scaler that does not go away, while the last period recorded since is another one; two periods that
ask for nothing do not count. -/
theorem one_shots_applied_once_iff {key : Key} {i : Interference World} (hi : i.KeepsScaler key)
    {w : World} {x : Scaler} (hx : w.store.stored key = some x) (hkey : x.key = key)
    (settings : Settings) (n : Nat) {nows : List Instant} {outcomes : List Outcome}
    (hsuccess : ((Cycle.reconcileAll settings key nows).run (i.around World.answer) (n, w)).1 =
      outcomes.map .ok) :
    (∀ fingerprint, AppliedOnce fingerprint (nows.zip outcomes)) ↔
      ∀ before t o between t' o' after p q,
        nows.zip outcomes = before ++ (t, o) :: (between ++ (t', o') :: after) →
          o.Applies p.fingerprint → o'.IsLive → choice x.spec.periods false t' = .ok p →
            p.once = true → lastRecorded between = some q →
              q.fingerprint = p.fingerprint ∨ (p.target = .noAction ∧ q.target = .noAction) := by
  have hstart : Holding key x.spec x.status (n, w) := by
    intro y hy
    obtain rfl := Option.some.inj (hx.symm.trans hy)
    exact ⟨hkey, rfl, rfl⟩
  have hrun := ensures_reconcileAll hi settings (n, w) hstart outcomes hsuccess
  constructor
  · intro honce before t o between t' o' after p q hsplit happlied hlive hp hshot hq
    by_contra hother
    obtain ⟨hdiffers, hbusy⟩ := not_or.mp hother
    refine honce p.fingerprint before t o between t' o' after hsplit happlied ?_
    rw [hsplit] at hrun
    exact (hrun.applies_again_iff happlied).mpr ⟨hlive, p, q, hp, hshot, rfl, hq, hdiffers, hbusy⟩
  · intro hcond fingerprint before t o between t' o' after hsplit happlied hagain
    have hrun' := hrun
    rw [hsplit] at hrun'
    obtain ⟨hlive, p, q, hp, hshot, rfl, hq, hdiffers, hbusy⟩ :=
      (hrun'.applies_again_iff happlied).mp hagain
    rcases hcond before t o between t' o' after p q hsplit happlied hlive hp hshot hq with
      hsame | hidle
    · exact hdiffers hsame
    · exact hbusy hidle

/-! ## A nap -/

/-- A nap every morning, to be taken once. -/
def nap : Declaration where
  name := "nap"
  target := .down
  timing := .recurring
    { days := ["all"], startTime := "09:00", endTime := "12:00", once := true, timeZone := none }

/-- A Scaler with the nap as its only period. -/
def napping : Scaler :=
  { Scaler.plain "default" "nightly" with
    spec := { (Scaler.plain "default" "nightly").spec with periods := [nap] } }

/-- A world with this Scaler in its store. -/
def nappingWorld : World :=
  { World.empty (.leadsTo .kubernetes) with store := (Memory.Store.empty.insert napping).2 }

/-- What the cycles run for this Scaler at some instants end with while nobody interferes. -/
def nappingAnswers (nows : List Instant) : List (Except CycleError Outcome) :=
  ((Cycle.reconcileAll .standard napping.key nows).run
    (Interference.calm.around World.answer) (0, nappingWorld)).1

/-- During the nap of a day and after it. -/
def morningAndAfternoon : List Instant := [Instant.ofHour 19877 10, Instant.ofHour 19877 13]

theorem exists_map_ok {l : List (Except CycleError Outcome)} (h : l.all Except.isOk = true) :
    ∃ outcomes : List Outcome, l = outcomes.map .ok := by
  induction l with
  | nil => exact ⟨[], rfl⟩
  | cons a l ih =>
    rw [List.all_cons, Bool.and_eq_true] at h
    obtain ⟨outcomes, rfl⟩ := ih h.2
    obtain ⟨o, rfl⟩ := exists_ok h.1
    exact ⟨o :: outcomes, rfl⟩

/-- In the morning and in the afternoon of one day, the nap is applied at most once. -/
theorem nap_appliedOnce : ∃ outcomes : List Outcome,
    nappingAnswers morningAndAfternoon = outcomes.map .ok ∧
    ∀ fingerprint, AppliedOnce fingerprint (morningAndAfternoon.zip outcomes) := by
  obtain ⟨x, hx, hspec⟩ : ∃ x, nappingWorld.store.stored napping.key = some x ∧
      x.key = napping.key := ⟨_, rfl, rfl⟩
  obtain ⟨outcomes, hsuccess⟩ :=
    exists_map_ok (l := nappingAnswers morningAndAfternoon) (by decide)
  refine ⟨outcomes, hsuccess, (one_shots_applied_once_iff
    (fun _ _ x hx => ⟨x, hx, rfl, rfl, rfl⟩) hx hspec .standard 0 hsuccess).mpr ?_⟩
  intro before t o between t' o' after p q hsplit _ _ _ _ hq
  have hlength := congrArg List.length hsplit
  simp only [morningAndAfternoon, List.length_zip, List.length_append, List.length_cons,
    List.length_nil] at hlength
  have hnil : between = [] := List.eq_nil_of_length_eq_zero (by omega)
  rw [hnil] at hq
  cases hq

/-- The next morning, with the afternoon recorded in between, the nap is applied again. -/
theorem nap_applied_twice :
    (nappingAnswers (morningAndAfternoon ++ [Instant.ofHour 19878 10])).map
        (fun answer => answer.toOption.map fun o => (o.stoppedBy, o.period.map Period.name)) =
      [some (none, some "nap"), some (none, some "default-restore"), some (none, some "nap")] := by
  decide +kernel

end PeriodScaler
