import PeriodScaler.Proofs.Cycle.Chains
import PeriodScaler.Proofs.Cycle.Ending
import PeriodScaler.Proofs.Transcript

/-!
# The course of a cycle

The six stages hand a context from one to the next, and each of them asks the context again what the
ones before have found. `Cycle.course` is the same cycle told as one program: which calls follow one
another for a live Scaler (`Cycle.serve`) and for one that goes away (`Cycle.leave`), and with what
outcome it ends.

* **`reconcile_eq_course`**: the chain of the stages is this program.
-/

namespace PeriodScaler.Cycle

variable (s : Settings) (key : Key) (now : Instant) (x : Scaler)

/-! ## The program -/

/-- The delay that the first request for one leaves. -/
def asked (delay : Span) : Option Span :=
  if delay.isZero then none else some delay

/-- Records the outcome of a pass. -/
def record (r : Resolution) (report : Report) : Work (Except CycleError Outcome) :=
  ((Change.setStatus (Stages.outcomeStatus r report)).apply x s.attempts).bind fun
    | .ok _ => .done (.ok ⟨asked s.steady, none, some r.period, report⟩)
    | .error e => .done (.error (.recoverable e))

/-- Releases the finalizer. -/
def release (period : Option Period) (report : Report) : Work (Except CycleError Outcome) :=
  (Change.removeFinalizer.apply x s.attempts).bind fun
    | .ok _ => .done (.ok ⟨none, some "status", period, report⟩)
    | .error e => .done (.error (.recoverable e))

/-- The course of a live Scaler with an access to its provider. -/
def serveBy (access : Access) : Work (Except CycleError Outcome) :=
  match resolve x.spec.periods x.currentPeriod false now with
  | .error (.alreadyRun p) =>
    match p.rerunDelay now s.grace with
    | .ok delay => .done (.ok ⟨asked delay, some "period", none, .empty⟩)
    | .error f => .done (.error (.critical (.fault f)))
  | .error e => .done (.error (.critical (.period e)))
  | .ok r =>
    if r.isIdle then .done (.ok ⟨asked s.steady, some "period", some r.period, .empty⟩)
    else (setAll access x.spec.selection key.namespaceName r.period.target).bind (record s x r)

/-- The course of a live Scaler with its marker. -/
def serve : Work (Except CycleError Outcome) :=
  .ask (.connect x) fun
    | .error e => .done (.error (.ofCause e))
    | .ok access => serveBy s key now x access

/-- The course of a Scaler that goes away with its marker. -/
def leave : Work (Except CycleError Outcome) :=
  if x.spec.restoreOnDelete then
    .ask (.connect x) fun
      | .error e => .done (.error (.ofCause e))
      | .ok access =>
        match resolve x.spec.periods x.currentPeriod true now with
        | .error e => .done (.error (.critical (.period e)))
        | .ok r =>
          (setAll access x.spec.selection key.namespaceName r.period.target).bind
            (release s x (some r.period))
  else release s x none .empty

/-- The course of the Scaler that was fetched. -/
def attend : Work (Except CycleError Outcome) :=
  if x.isDeleting then
    if x.isMarked then leave s key now x
    else .done (.ok ⟨none, some "finalizer", none, .empty⟩)
  else if x.isMarked then serve s key now x
  else
    (Change.addFinalizer.apply x s.attempts).bind fun
      | .ok updated => serve s key now updated
      | .error e => .done (.error (.recoverable e))

/-- The course of a cycle. -/
def course : Work (Except CycleError Outcome) :=
  .ask (.fetch key) fun
    | .error e => .done (.error (.recoverable e))
    | .ok none => .done (.error (.critical (.notFound key.text)))
    | .ok (some x) => attend s key now x

/-! ## Ends of the chain -/

/-- The outcome of a chain from a context on. -/
def finish (chain : Chain Work) (c : Context) : Work (Except CycleError Outcome) :=
  (chain.execute c).bind fun answer => .done (answer.map outcome)

variable {s key now x} {c : Context}

theorem finish_nil : finish [] c = .done (.ok (outcome ⟨c, none⟩)) := rfl

/-- A chain goes on with what its first stage decides. -/
theorem finish_cons (stage : Stage Work) (rest : Chain Work) (c : Context) :
    finish (stage :: rest) c = (stage.execute c).bind fun
      | .ok (.goOn next) => finish rest next
      | .ok (.stop last) => .done (.ok (outcome ⟨last, some stage.name⟩))
      | .error e => .done (.error e) := by
  unfold finish
  rw [Chain.execute, Program.bind_eq, Program.bind_assoc]
  congr 1
  funext answer
  rcases answer with e | ⟨next⟩ | ⟨last⟩ <;> rfl

theorem finish_goOn {stage : Stage Work} {rest : Chain Work} {next : Context}
    (h : stage.execute c = Stages.goOn next) : finish (stage :: rest) c = finish rest next := by
  rw [finish_cons, h]
  rfl

/-- The end of a cycle that asks for the next one. -/
theorem done_requeueAfter {delay : Span} (hc : c.requeue = none) (stoppedBy : Option String) :
    (.done (.ok (outcome ⟨c.requeueAfter delay, stoppedBy⟩)) : Work (Except CycleError Outcome)) =
      .done (.ok ⟨asked delay, stoppedBy, c.resolution.map Resolution.period, c.report⟩) := by
  have hreport : (c.requeueAfter delay).report = c.report := by
    unfold Context.requeueAfter Context.requestRequeue
    split <;> rfl
  rw [outcome, Context.requeue_requeueAfter, hc, Option.none_or, Context.resolution_requeueAfter,
    hreport]
  rfl

/-- The context of a Scaler before its period is resolved. -/
def met (key : Key) (now : Instant) (x : Scaler) (finalizing : Bool) : Context :=
  { Context.start key now with scaler := some x, finalizing }

/-- The last stage of a live Scaler. -/
theorem finish_status_live {r : Resolution} (hx : c.scaler = some x)
    (hlive : c.finalizing = false) (hr : c.resolution = some r) (hrequeue : c.requeue = none) :
    finish [Stages.status s.attempts s.steady] c = record s x r c.report := by
  rw [finish_cons]
  simp only [Stages.status, Stages.withScaler_eq hx, hlive, Bool.false_eq_true, if_false, hr,
    Program.bind_eq, Program.bind_assoc, record]
  congr 1
  funext answer
  cases answer with
  | error e => rfl
  | ok updated =>
    simp only [Stages.goOn, Program.done_bind, finish_nil]
    exact done_requeueAfter (by exact hrequeue) none

/-- The last stage of a Scaler that goes away. -/
theorem finish_status_leaving (hx : c.scaler = some x) (hfinalizing : c.finalizing = true)
    (hrequeue : c.requeue = none) :
    finish [Stages.status s.attempts s.steady] c =
      release s x (c.resolution.map Resolution.period) c.report := by
  rw [finish_cons]
  simp only [Stages.status, Stages.withScaler_eq hx, hfinalizing, if_true, Program.bind_eq,
    Program.bind_assoc, release]
  congr 1
  funext answer
  cases answer with
  | error e => rfl
  | ok updated =>
    simp only [Stages.stop, Program.done_bind, outcome, hrequeue]

/-- The stage before the last one converges what is resolved. -/
theorem finish_scaling {rest : Chain Work} {r : Resolution} {selection : Selection}
    {access : Access} (hr : c.resolution = some r) (hselection : c.selection = some selection)
    (haccess : c.access = some access) :
    finish (Stages.scaling :: rest) c =
      (setAll access selection c.key.namespaceName r.period.target).bind fun report =>
        finish rest { c with report := c.report ++ report } := by
  rw [finish_cons]
  simp only [Stages.scaling, hr, hselection, haccess, Program.bind_eq, Program.bind_assoc]
  rfl

/-- Once there is an access, a live Scaler is served by the period that resolves. -/
theorem finish_period_live (access : Access) :
    finish [Stages.period s.steady s.grace, Stages.scaling, Stages.status s.attempts s.steady]
      { met key now x false with access := some access } = serveBy s key now x access := by
  rw [finish_cons]
  unfold serveBy
  simp only [Stages.period, Stages.withScaler_eq
    (c := { met key now x false with access := some access }) (x := x) rfl]
  simp only [met, Context.start, Context.leavesResources, Context.restoreRequested,
    Bool.false_and, Bool.false_eq_true, if_false, Option.isNone_some]
  cases resolve x.spec.periods x.currentPeriod false now with
  | error e =>
    cases e with
    | invalid name flaw => rfl
    | alreadyRun p =>
      simp only
      cases p.rerunDelay now s.grace with
      | error f => rfl
      | ok delay => exact done_requeueAfter (by rfl) _
  | ok r =>
    simp only
    by_cases hidle : r.isIdle = true
    · rw [if_pos hidle, if_pos hidle]
      exact done_requeueAfter (by rfl) _
    · rw [if_neg hidle, if_neg hidle, Stages.goOn, Program.done_bind]
      simp only
      rw [finish_scaling rfl rfl rfl]
      congr 1
      funext report
      exact finish_status_live rfl rfl rfl rfl

/-- From the connection on, a live Scaler is served. -/
theorem finish_live :
    finish [Stages.auth, Stages.period s.steady s.grace, Stages.scaling,
      Stages.status s.attempts s.steady] (met key now x false) = serve s key now x := by
  rw [finish_cons]
  unfold serve
  refine congrArg (Program.ask (I := collaborators) (Call.connect x)) (funext fun answer => ?_)
  cases answer with
  | error e => rfl
  | ok access => exact finish_period_live access

/-- Once there is an access, the default period brings back the resources. -/
theorem finish_period_leaving (access : Access) (hrestore : x.spec.restoreOnDelete = true) :
    finish [Stages.period s.steady s.grace, Stages.scaling, Stages.status s.attempts s.steady]
      { met key now x true with access := some access } =
    match resolve x.spec.periods x.currentPeriod true now with
    | .error e => .done (.error (.critical (.period e)))
    | .ok r =>
      (setAll access x.spec.selection key.namespaceName r.period.target).bind
        (release s x (some r.period)) := by
  rw [finish_cons]
  simp only [Stages.period, Stages.withScaler_eq
    (c := { met key now x true with access := some access }) (x := x) rfl]
  simp only [met, Context.start, Context.leavesResources, Context.restoreRequested,
    Option.any_some, hrestore, Bool.true_and, Bool.not_true, Bool.false_eq_true, if_false,
    Option.isNone_some]
  cases hresolve : resolve x.spec.periods x.currentPeriod true now with
  | error e =>
    cases e with
    | invalid name flaw => rfl
    | alreadyRun p => exact absurd hresolve resolve_requested_ne
  | ok r =>
    simp only
    have hidle : r.isIdle = false := (resolve_requested hresolve).2
    rw [hidle, if_neg Bool.false_ne_true, Stages.goOn, Program.done_bind]
    simp only
    rw [finish_scaling rfl rfl rfl]
    congr 1
    funext report
    exact finish_status_leaving rfl rfl rfl

/-- From the connection on, a Scaler that goes away leaves. -/
theorem finish_leaving :
    finish [Stages.auth, Stages.period s.steady s.grace, Stages.scaling,
      Stages.status s.attempts s.steady] (met key now x true) = leave s key now x := by
  unfold leave
  cases hrestore : x.spec.restoreOnDelete with
  | false =>
    have hleaves : (met key now x true).leavesResources = true := by
      simp [Context.leavesResources, Context.restoreRequested, met, hrestore]
    have hauth : Stages.auth.execute (met key now x true) = Stages.goOn (met key now x true) := by
      simp only [Stages.auth, hleaves, if_true]
    have hperiod : (Stages.period s.steady s.grace).execute (met key now x true) =
        Stages.goOn (met key now x true) := by
      simp only [Stages.period, hleaves, if_true]
    have hscaling : Stages.scaling.execute (met key now x true) =
        Stages.goOn (met key now x true) := rfl
    rw [finish_goOn hauth, finish_goOn hperiod, finish_goOn hscaling]
    exact finish_status_leaving rfl rfl rfl
  | true =>
    have hstays : (met key now x true).leavesResources = false := by
      simp [Context.leavesResources, Context.restoreRequested, met, hrestore]
    rw [finish_cons]
    simp only [Stages.auth, hstays, Bool.false_eq_true, if_false, if_true,
      Stages.withScaler_eq (c := met key now x true) (x := x) rfl]
    refine congrArg (Program.ask (I := collaborators) (Call.connect x)) (funext fun answer => ?_)
    cases answer with
    | error e => rfl
    | ok access => exact finish_period_leaving access hrestore

/-- A Scaler that goes away with its marker leaves. -/
theorem attend_leaving (hdeleting : x.isDeleting = true) (hmarked : x.isMarked = true) :
    attend s key now x = leave s key now x := by
  rw [attend, if_pos hdeleting, if_pos hmarked]

/-- A live Scaler gets its marker and is served; one that has it is not written for that. -/
theorem attend_live (hlive : x.isDeleting = false) :
    attend s key now x = (Change.addFinalizer.apply x s.attempts).bind fun
      | .ok v => serve s key now v
      | .error e => .done (.error (.recoverable e)) := by
  rw [attend, hlive, if_neg Bool.false_ne_true]
  cases hmarked : x.isMarked with
  | true =>
    rw [Change.apply_of_isSatisfied (c := .addFinalizer) hmarked]
    rfl
  | false => rfl

/-- From the finalizer on, a Scaler is attended to. -/
theorem finish_met :
    finish [Stages.finalizer s.attempts, Stages.auth, Stages.period s.steady s.grace,
      Stages.scaling, Stages.status s.attempts s.steady] (met key now x false) =
        attend s key now x := by
  rw [finish_cons]
  simp only [Stages.finalizer, Stages.withScaler_eq (c := met key now x false) (x := x) rfl]
  unfold attend
  cases hdeleting : x.isDeleting with
  | true =>
    cases hmarked : x.isMarked with
    | true => exact finish_leaving
    | false => rfl
  | false =>
    cases hmarked : x.isMarked with
    | true => exact finish_live
    | false =>
      simp only [Bool.false_eq_true, if_false, Program.bind_eq, Program.bind_assoc]
      congr 1
      funext added
      cases added with
      | error e => rfl
      | ok updated => exact finish_live

/-- **The chain of the stages is one program.** -/
theorem reconcile_eq_course (s : Settings) (key : Key) (now : Instant) :
    reconcile s key now = course s key now := by
  change finish (stages s) (.start key now) = course s key now
  unfold stages course
  rw [finish_cons]
  refine congrArg (Program.ask (I := collaborators) (Call.fetch key)) (funext fun answer => ?_)
  rcases answer with e | _ | x
  · rfl
  · rfl
  · exact finish_met

/-! ## After the first read -/

section Found

variable {σ : Type} {h : Handler collaborators σ} {t t' : σ}
  (hfetch : h (.fetch key) t = (.ok (some x), t'))

include hfetch

theorem run_of_found : (reconcile s key now).run h t = (attend s key now x).run h t' := by
  rw [reconcile_eq_course]
  exact Program.run_of_answer (I := collaborators) hfetch

theorem transcript_of_found : (reconcile s key now).transcript h t =
    ⟨.fetch key, .ok (some x)⟩ :: (attend s key now x).transcript h t' := by
  rw [reconcile_eq_course]
  exact Program.transcript_of_answer (I := collaborators) hfetch

/-- A chain that fetches the Scaler first goes on with the one that it found. -/
theorem run_execute_of_found (now : Instant) (rest : Chain Work) :
    (Chain.execute (Stages.fetch :: rest) (.start key now)).run h t =
      (Chain.execute rest (met key now x false)).run h t' := by
  have hchain : Chain.execute (Stages.fetch :: rest) (.start key now) =
      .ask (I := collaborators) (.fetch key) fun
        | .error e => .done (.error (.recoverable e))
        | .ok none => .done (.error (.critical (.notFound key.text)))
        | .ok (some x) => Chain.execute rest (met key now x false) := by
    refine congrArg (Program.ask (I := collaborators) (Call.fetch key)) (funext fun answer => ?_)
    rcases answer with e | _ | x <;> rfl
  rw [hchain]
  exact Program.run_of_answer (I := collaborators) hfetch

end Found

section Unread

variable {σ : Type} {h : Handler collaborators σ} {t t' : σ} {e : Cause}
  (hfetch : h (.fetch key) t = (.error e, t'))

include hfetch

theorem run_of_unread : (reconcile s key now).run h t = (.error (.recoverable e), t') := by
  rw [reconcile_eq_course]
  exact Program.run_of_answer (I := collaborators) hfetch

theorem transcript_of_unread :
    (reconcile s key now).transcript h t = [⟨.fetch key, .error e⟩] := by
  rw [reconcile_eq_course]
  exact Program.transcript_of_answer (I := collaborators) hfetch

/-- A chain that fetches the Scaler first fails with the read. -/
theorem run_execute_of_unread (now : Instant) (rest : Chain Work) :
    (Chain.execute (Stages.fetch :: rest) (.start key now)).run h t =
      (.error (.recoverable e), t') :=
  Program.run_of_answer (I := collaborators) hfetch

end Unread

/-! ## Under interference -/

open Memory (World)

/-- The end of a cycle under interference: its result, and the world behind the count of calls. -/
def runUnder (i : Interference World) (s : Settings) (key : Key) (now : Instant)
    (start : Nat × World) : Except CycleError Outcome × Nat × World :=
  (reconcile s key now).run (i.around World.answer) start

/-- What a cycle exchanges under interference. -/
def exchangesUnder (i : Interference World) (s : Settings) (key : Key) (now : Instant)
    (start : Nat × World) : List collaborators.Exchange :=
  (reconcile s key now).transcript (i.around World.answer) start

end PeriodScaler.Cycle
