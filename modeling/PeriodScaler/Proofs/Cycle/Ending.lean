import PeriodScaler.Cycle.Reconcile
import PeriodScaler.Proofs.Cycle.Upkeep
import PeriodScaler.Proofs.Period.Choice

/-!
# How a cycle ends

A cycle that does not fail ends in one of four ways (`CycleEnd`): it applies the period that
resolves and records it, it stops at a period that has run, it stops because nothing was to be done
before and nothing is now, or its Scaler goes away. Only the first one writes the record. One lemma
for each stage says what the stage hands on, and the chain of the six joins them.

* **`ensures_execute_cons`**: a chain goes on from what its first stage hands on.
* **`ensures_reconcile`**: every cycle that does not fail ends in one of the four ways.
-/

namespace PeriodScaler

open Memory (World)

/-- How a cycle that does not fail ends: its outcome, and the record that it leaves in the place of
the previous one. -/
inductive CycleEnd (periods : List Declaration) (previous : Option PassRecord) (now : Instant) :
    Outcome → Option PassRecord → Prop where
  | applied {r o record} (hr : resolve periods previous false now = .ok r)
    (hidle : r.isIdle = false) (hstop : o.stoppedBy = none) (hperiod : o.period = some r.period)
    (hfingerprint : record.fingerprint = r.period.fingerprint)
    (htarget : record.target = r.period.target) :
    CycleEnd periods previous now o (some record)
  | hasRun {p o} (hp : resolve periods previous false now = .error (.alreadyRun p))
    (hstop : o.stoppedBy = some "period") (hperiod : o.period = none) :
    CycleEnd periods previous now o previous
  | idle {r o} (hr : resolve periods previous false now = .ok r) (hidle : r.isIdle = true)
    (hstop : o.stoppedBy = some "period") (hperiod : o.period = some r.period) :
    CycleEnd periods previous now o previous
  | leaving {o} (hstop : o.stoppedBy = some "finalizer" ∨ o.stoppedBy = some "status")
    (hperiod : ∀ p, o.period = some p → p.once = false) :
    CycleEnd periods previous now o previous

/-! ## Restoring on request -/

theorem choice_requested (ds : List Declaration) (now : Instant) :
    choice ds true now = Period.evaluate .defaultRestore now := by
  unfold choice
  cases Period.evaluate .defaultRestore now <;> rfl

/-- On request the default period applies, which is neither one-shot nor idle. -/
theorem resolve_requested {ds : List Declaration} {previous : Option PassRecord} {now : Instant}
    {r : Resolution} (h : resolve ds previous true now = .ok r) :
    r.period.once = false ∧ r.isIdle = false := by
  obtain ⟨hchoice, -⟩ := resolve_eq_ok_iff.mp h
  rw [choice_requested] at hchoice
  obtain ⟨honce, htarget⟩ := evaluate_defaultRestore hchoice
  refine ⟨honce, ?_⟩
  rw [Resolution.isIdle, htarget]
  rfl

theorem resolve_requested_ne {ds : List Declaration} {previous : Option PassRecord} {now : Instant}
    {p : Period} : resolve ds previous true now ≠ .error (.alreadyRun p) := by
  intro h
  rw [resolve_eq, choice_requested] at h
  cases hrestore : Period.evaluate .defaultRestore now with
  | error e =>
    rw [hrestore, error_bind] at h
    obtain rfl := Except.error.inj h
    unfold Period.evaluate at hrestore
    split at hrestore <;> cases hrestore
  | ok q =>
    rw [hrestore, ok_bind, (evaluate_defaultRestore hrestore).1, Bool.false_and,
      if_neg Bool.false_ne_true] at h
    cases h

/-! ## Chains -/

/-- What a stage hands on, and with what it stops; nothing is said of a failure. -/
def Flows {σ : Type} (goes stops : Context → σ → Prop) : Except CycleError Flow → σ → Prop
  | .ok (.goOn c), s => goes c s
  | .ok (.stop c), s => stops c s
  | .error _, _ => True

section Chain

variable {σ : Type} {h : Handler collaborators σ} {pre : σ → Prop}
  {goes stops : Context → σ → Prop}

theorem ensures_goOn {c : Context} (hc : ∀ s, pre s → goes c s) :
    (Stages.goOn c).Ensures h pre (Flows goes stops) :=
  hc

theorem ensures_stop {c : Context} (hc : ∀ s, pre s → stops c s) :
    (Stages.stop c).Ensures h pre (Flows goes stops) :=
  hc

theorem ensures_fail (e : CycleError) : (Stages.fail e).Ensures h pre (Flows goes stops) :=
  fun _ _ => trivial

/-- **A chain goes on** from what its first stage hands on. -/
theorem ensures_execute_cons {stage : Stage Work} {rest : Chain Work} {c : Context}
    {post : ChainEnd → σ → Prop}
    (hstage : (stage.execute c).Ensures h pre
      (Flows goes fun last s => post ⟨last, some stage.name⟩ s))
    (hrest : ∀ next, (Chain.execute rest next).Ensures h (goes next) fun answer s =>
      ∀ e, answer = .ok e → post e s) :
    (Chain.execute (stage :: rest) c).Ensures h pre fun answer s =>
      ∀ e, answer = .ok e → post e s := by
  unfold Chain.execute
  refine hstage.bind fun answer => ?_
  split
  · exact hrest _
  · refine Program.Ensures.done fun s hs e he => ?_
    obtain rfl := Except.ok.inj he
    exact hs
  · exact Program.Ensures.done fun s _ e he => by cases he

end Chain

/-! ## Stages -/

/-- The Scaler has been fetched, and no period is resolved yet. -/
structure Context.IsFetched (key : Key) (spec : Spec) (status : Option Status) (now : Instant)
    (c : Context) : Prop where
  now_eq : c.now = now
  fetched : ∃ x, c.scaler = some x ∧ x.Is key spec status
  unresolved : c.resolution = none

/-- A period is resolved that is to be applied, or the Scaler goes away. -/
structure Context.IsResolved (key : Key) (spec : Spec) (status : Option Status) (now : Instant)
    (c : Context) : Prop where
  fetched : ∃ x, c.scaler = some x ∧ x.Is key spec status
  resolved : (c.finalizing = true ∧ ∀ r, c.resolution = some r → r.period.once = false) ∨
    (c.finalizing = false ∧ ∃ r, c.resolution = some r ∧ r.isIdle = false ∧
      resolve spec.periods (status.bind Status.current) false now = .ok r)

theorem Stages.withScaler_eq {c : Context} {x : Scaler} (hx : c.scaler = some x)
    (f : Scaler → Work (Except CycleError Flow)) : Stages.withScaler c f = f x := by
  unfold Stages.withScaler Context.fetched
  rw [hx]

@[simp] theorem Context.resolution_requeueAfter (d : Span) (c : Context) :
    (c.requeueAfter d).resolution = c.resolution := by
  unfold requeueAfter requestRequeue
  split <;> rfl

section Stages

variable {key : Key} {spec : Spec} {status : Option Status} {now : Instant}
  {i : Interference World} (hi : i.KeepsScaler key) {c : Context}

/-- With the status of a cycle, the end that it would come to. -/
def EndsIn (key : Key) (spec : Spec) (status : Option Status) (now : Instant) (e : ChainEnd)
    (s : Nat × World) : Prop :=
  ∃ after, Holding key spec after s ∧ CycleEnd spec.periods (status.bind Status.current) now
    (Cycle.outcome e) (after.bind Status.current)

include hi

theorem ensures_fetch (hkey : c.key = key) (hnow : c.now = now) (hnone : c.resolution = none)
    {stops : Context → Nat × World → Prop} :
    (Stages.fetch.execute c).Ensures (i.around World.answer) (Holding key spec status)
      (Flows (fun next s => next.IsFetched key spec status now ∧ Holding key spec status s)
        stops) := by
  refine Program.Ensures.ask (Read key spec status)
    (fun s hs => hkey ▸ read_fetch hi hs) fun answer => ?_
  split
  · exact ensures_fail _
  · exact ensures_fail _
  · rename_i x
    exact ensures_goOn fun s hs => ⟨⟨hnow, ⟨x, rfl, hs.2 x rfl⟩, hnone⟩, hs.1⟩

theorem ensures_finalizer (attempts : Nat) (hc : c.IsFetched key spec status now) :
    ((Stages.finalizer attempts).execute c).Ensures (i.around World.answer)
      (Holding key spec status)
      (Flows (fun next s => next.IsFetched key spec status now ∧ Holding key spec status s)
        fun last s => EndsIn key spec status now ⟨last, some "finalizer"⟩ s) := by
  obtain ⟨hnow, ⟨x, hx, his⟩, hnone⟩ := hc
  simp only [Stages.finalizer, Stages.withScaler_eq hx]
  split
  · split
    · exact ensures_goOn fun s hs => ⟨⟨hnow, ⟨x, hx, his⟩, hnone⟩, hs⟩
    · refine ensures_stop fun s hs => ⟨status, hs, .leaving (Or.inl rfl) fun p hp => ?_⟩
      simp [Cycle.outcome, hnone] at hp
  · split
    · exact ensures_goOn fun s hs => ⟨⟨hnow, ⟨x, hx, his⟩, hnone⟩, hs⟩
    · refine (Change.ensures_apply hi .addFinalizer his attempts).bind fun answer => ?_
      split
      · rename_i updated
        exact ensures_goOn fun s hs =>
          ⟨⟨hnow, ⟨updated, rfl, (hs updated rfl).1⟩, hnone⟩, (hs updated rfl).2⟩
      · exact ensures_fail _

theorem ensures_auth (hc : c.IsFetched key spec status now)
    {stops : Context → Nat × World → Prop} :
    (Stages.auth.execute c).Ensures (i.around World.answer) (Holding key spec status)
      (Flows (fun next s => next.IsFetched key spec status now ∧ Holding key spec status s)
        stops) := by
  obtain ⟨hnow, ⟨x, hx, his⟩, hnone⟩ := hc
  simp only [Stages.auth, Stages.withScaler_eq hx]
  split
  · exact ensures_goOn fun s hs => ⟨⟨hnow, ⟨x, hx, his⟩, hnone⟩, hs⟩
  · refine Program.Ensures.ask (fun _ => Holding key spec status)
      (fun s hs => holding_of_not_writes hi rfl hs) fun answer => ?_
    split
    · exact ensures_goOn fun s hs => ⟨⟨hnow, ⟨x, hx, his⟩, hnone⟩, hs⟩
    · exact ensures_fail _

omit hi in
theorem ensures_period (steady grace : Span) (hc : c.IsFetched key spec status now) :
    ((Stages.period steady grace).execute c).Ensures (i.around World.answer)
      (Holding key spec status)
      (Flows (fun next s => next.IsResolved key spec status now ∧ Holding key spec status s)
        fun last s => EndsIn key spec status now ⟨last, some "period"⟩ s) := by
  obtain ⟨hnow, ⟨x, hx, his⟩, hnone⟩ := hc
  simp only [Stages.period, Stages.withScaler_eq hx]
  split
  · rename_i hleaves
    have hfinalizing : c.finalizing = true := (Bool.and_eq_true _ _ ▸ hleaves).1
    refine ensures_goOn fun s hs => ⟨⟨⟨x, hx, his⟩, Or.inl ⟨hfinalizing, fun r hr => ?_⟩⟩, hs⟩
    rw [hnone] at hr
    cases hr
  · rename_i hstays
    split
    · exact ensures_fail _
    · have hprevious : x.currentPeriod = status.bind Status.current := by
        rw [Scaler.currentPeriod, his.status_eq]
      rw [his.spec_eq, hprevious, hnow]
      cases hrequested : c.restoreRequested with
      | true =>
        have hfinalizing : c.finalizing = true := (Bool.and_eq_true _ _ ▸ hrequested).1
        split
        · rename_i hrun
          exact absurd hrun resolve_requested_ne
        · exact ensures_fail _
        · rename_i r hr
          obtain ⟨honce, hidle⟩ := resolve_requested hr
          rw [if_neg (by rw [hidle]; exact Bool.false_ne_true)]
          refine ensures_goOn fun s hs => ⟨⟨⟨x, hx, his⟩, Or.inl ⟨hfinalizing, ?_⟩⟩, hs⟩
          rintro _ ⟨⟩
          exact honce
      | false =>
        have hlive : c.finalizing = false := by
          unfold Context.leavesResources at hstays
          rw [hrequested] at hstays
          simpa using hstays
        split
        · rename_i p hrun
          split
          · refine ensures_stop fun s hs => ⟨status, hs, .hasRun hrun rfl ?_⟩
            simp [Cycle.outcome, hnone]
          · exact ensures_fail _
        · exact ensures_fail _
        · rename_i r hr
          split
          · rename_i hidle
            refine ensures_stop fun s hs => ⟨status, hs, .idle hr hidle rfl ?_⟩
            simp [Cycle.outcome]
          · rename_i hidle
            refine ensures_goOn fun s hs => ⟨⟨⟨x, hx, his⟩, Or.inr ⟨hlive, r, rfl, ?_, hr⟩⟩, hs⟩
            simpa using hidle

theorem ensures_scaling (hc : c.IsResolved key spec status now)
    {stops : Context → Nat × World → Prop} :
    (Stages.scaling.execute c).Ensures (i.around World.answer) (Holding key spec status)
      (Flows (fun next s => next.IsResolved key spec status now ∧ Holding key spec status s)
        stops) := by
  simp only [Stages.scaling]
  split
  · refine ((onResources_setAll _ _ _ _).ensures fun call hcall s hs =>
      holding_of_not_writes hi (Call.writes_of_isResource hcall) hs).bind fun report => ?_
    exact ensures_goOn fun s hs => ⟨⟨hc.fetched, hc.resolved⟩, hs⟩
  · exact ensures_goOn fun s hs => ⟨hc, hs⟩

/-- The chain ends after the last stage, which records the outcome of a live Scaler. -/
theorem ensures_status (attempts : Nat) (steady : Span) (hc : c.IsResolved key spec status now) :
    ((Stages.status attempts steady).execute c).Ensures (i.around World.answer)
      (Holding key spec status)
      (Flows (fun last s => EndsIn key spec status now ⟨last, none⟩ s)
        fun last s => EndsIn key spec status now ⟨last, some "status"⟩ s) := by
  obtain ⟨⟨x, hx, his⟩, ⟨hfinalizing, honce⟩ | ⟨hlive, r, hresolution, hidle, hr⟩⟩ := hc
  · simp only [Stages.status, Stages.withScaler_eq hx, hfinalizing, if_true]
    refine (Change.ensures_apply hi .removeFinalizer his attempts).bind fun answer => ?_
    split
    · rename_i updated
      refine ensures_stop fun s hs => ⟨status, (hs updated rfl).2, .leaving (Or.inr rfl) ?_⟩
      intro p hp
      obtain ⟨r, hr, rfl⟩ := Option.map_eq_some_iff.mp hp
      exact honce r hr
    · exact ensures_fail _
  · simp only [Stages.status, Stages.withScaler_eq hx, hlive, hresolution, Bool.false_eq_true,
      if_false]
    refine (Change.ensures_apply hi (.setStatus (Stages.outcomeStatus r c.report)) his
      attempts).bind fun answer => ?_
    split
    · rename_i updated
      obtain ⟨-, -, -, hnext⟩ := resolve_eq_ok_iff.mp hr
      refine ensures_goOn fun s hs => ⟨_, (hs updated rfl).2, .applied hr hidle rfl ?_ ?_ ?_⟩
      · simp [Cycle.outcome]
      · rw [hnext]
        rfl
      · rw [hnext]
        rfl
    · exact ensures_fail _

/-- **Every cycle that does not fail ends in one of the four ways.** -/
theorem ensures_reconcile (settings : Settings) (now : Instant) :
    (Cycle.reconcile settings key now).Ensures (i.around World.answer) (Holding key spec status)
      fun answer s => ∀ o, answer = .ok o → ∃ after, Holding key spec after s ∧
        CycleEnd spec.periods (status.bind Status.current) now o (after.bind Status.current) := by
  have hchain : ((Cycle.stages settings).execute (.start key now)).Ensures (i.around World.answer)
      (Holding key spec status) fun answer s =>
        ∀ e, answer = .ok e → EndsIn key spec status now e s := by
    refine ensures_execute_cons (ensures_fetch hi rfl rfl rfl) fun c => ?_
    refine Program.Ensures.start fun s hs => ⟨Holding key spec status, hs.2, ?_⟩
    refine ensures_execute_cons (ensures_finalizer hi _ hs.1) fun c => ?_
    refine Program.Ensures.start fun s hs => ⟨Holding key spec status, hs.2, ?_⟩
    refine ensures_execute_cons (ensures_auth hi hs.1) fun c => ?_
    refine Program.Ensures.start fun s hs => ⟨Holding key spec status, hs.2, ?_⟩
    refine ensures_execute_cons (ensures_period _ _ hs.1) fun c => ?_
    refine Program.Ensures.start fun s hs => ⟨Holding key spec status, hs.2, ?_⟩
    refine ensures_execute_cons (ensures_scaling hi hs.1) fun c => ?_
    refine Program.Ensures.start fun s hs => ⟨Holding key spec status, hs.2, ?_⟩
    refine ensures_execute_cons (ensures_status hi _ _ hs.1) fun c => ?_
    exact Program.Ensures.done fun s hs e he => Except.ok.inj he ▸ hs
  unfold Cycle.reconcile
  refine hchain.bind fun answer => Program.Ensures.done fun s hs o ho => ?_
  cases answer with
  | error e => cases ho
  | ok e =>
    obtain rfl := Except.ok.inj ho
    exact hs e rfl

end Stages

end PeriodScaler
