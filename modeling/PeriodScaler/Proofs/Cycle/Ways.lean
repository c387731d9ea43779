import PeriodScaler.Proofs.Cycle.Course

/-!
# The ways of a cycle

All that a cycle can do, told once: what it exchanges, and with what result it ends. There is one
case for each way through the stages, so a fact about failures, about delays or about the order of
calls is read off the cases, and no proof needs to open a stage again.

* **`serves_of_plays`**: the ways of a live Scaler once it has its marker.
* **`departs_of_plays`**: the ways of a Scaler that goes away.
* **`goes_run`**: every cycle, whatever answers its calls, goes one of the ways.
-/

namespace PeriodScaler.Cycle

variable (s : Settings) (key : Key) (now : Instant)

/-! ## The ways -/

/-- The ways of a live Scaler with its marker. -/
inductive Serves (v : Scaler) : List collaborators.Exchange → Except CycleError Outcome → Prop where
  | unconnected {c} : Serves v [⟨.connect v, .error c⟩] (.error (.ofCause c))
  | undecided {access name flaw}
    (h : resolve v.spec.periods v.currentPeriod false now = .error (.invalid name flaw)) :
    Serves v [⟨.connect v, .ok access⟩] (.error (.critical (.period (.invalid name flaw))))
  | waits {access p delay}
    (h : resolve v.spec.periods v.currentPeriod false now = .error (.alreadyRun p))
    (hdelay : p.rerunDelay now s.grace = .ok delay) :
    Serves v [⟨.connect v, .ok access⟩] (.ok ⟨asked delay, some "period", none, .empty⟩)
  | overlong {access p f}
    (h : resolve v.spec.periods v.currentPeriod false now = .error (.alreadyRun p))
    (hdelay : p.rerunDelay now s.grace = .error f) :
    Serves v [⟨.connect v, .ok access⟩] (.error (.critical (.fault f)))
  | idle {access r} (h : resolve v.spec.periods v.currentPeriod false now = .ok r)
    (hidle : r.isIdle = true) :
    Serves v [⟨.connect v, .ok access⟩]
      (.ok ⟨asked s.steady, some "period", some r.period, .empty⟩)
  | recorded {access r pass report l y}
    (h : resolve v.spec.periods v.currentPeriod false now = .ok r) (hidle : r.isIdle = false)
    (hpass : (setAll access v.spec.selection key.namespaceName r.period.target).Plays pass report)
    (hrecord : (Change.setStatus (Stages.outcomeStatus r report)).Tries v.key v l (.ok y)) :
    Serves v (⟨.connect v, .ok access⟩ :: (pass ++ l))
      (.ok ⟨asked s.steady, none, some r.period, report⟩)
  | unrecorded {access r pass report l e}
    (h : resolve v.spec.periods v.currentPeriod false now = .ok r) (hidle : r.isIdle = false)
    (hpass : (setAll access v.spec.selection key.namespaceName r.period.target).Plays pass report)
    (hrecord : (Change.setStatus (Stages.outcomeStatus r report)).Tries v.key v l (.error e)) :
    Serves v (⟨.connect v, .ok access⟩ :: (pass ++ l)) (.error (.recoverable e))

/-- What is done for a Scaler that goes away before its marker is released: nothing, or a pass that
restores its resources. -/
inductive Restored (x : Scaler) : List collaborators.Exchange → Option Period → Report → Prop where
  | none (h : x.spec.restoreOnDelete = false) : Restored x [] .none .empty
  | pass {access r pass report} (h : x.spec.restoreOnDelete = true)
    (hr : resolve x.spec.periods x.currentPeriod true now = .ok r)
    (hpass : (setAll access x.spec.selection key.namespaceName r.period.target).Plays pass report) :
    Restored x (⟨.connect x, .ok access⟩ :: pass) (some r.period) report

/-- The ways of a Scaler that goes away with its marker. -/
inductive Departs (x : Scaler) : List collaborators.Exchange → Except CycleError Outcome → Prop
    where
  | unconnected {c} (h : x.spec.restoreOnDelete = true) :
    Departs x [⟨.connect x, .error c⟩] (.error (.ofCause c))
  | undecided {access e} (h : x.spec.restoreOnDelete = true)
    (he : resolve x.spec.periods x.currentPeriod true now = .error e) :
    Departs x [⟨.connect x, .ok access⟩] (.error (.critical (.period e)))
  | released {front period report l y} (h : Restored key now x front period report)
    (hrelease : Change.removeFinalizer.Tries x.key x l (.ok y)) :
    Departs x (front ++ l) (.ok ⟨none, some "status", period, report⟩)
  | kept {front period report l e} (h : Restored key now x front period report)
    (hrelease : Change.removeFinalizer.Tries x.key x l (.error e)) :
    Departs x (front ++ l) (.error (.recoverable e))

/-- The ways of a cycle. -/
inductive Goes : List collaborators.Exchange → Except CycleError Outcome → Prop where
  | unread {e} : Goes [⟨.fetch key, .error e⟩] (.error (.recoverable e))
  | missing : Goes [⟨.fetch key, .ok none⟩] (.error (.critical (.notFound key.text)))
  | ignored {x} (hdeleting : x.isDeleting = true) (hbare : x.isMarked = false) :
    Goes [⟨.fetch key, .ok (some x)⟩] (.ok ⟨none, some "finalizer", none, .empty⟩)
  | departed {x l result} (hdeleting : x.isDeleting = true) (hmarked : x.isMarked = true)
    (h : Departs key now x l result) : Goes (⟨.fetch key, .ok (some x)⟩ :: l) result
  | unmarked {x l e} (hlive : x.isDeleting = false)
    (h : Change.addFinalizer.Tries x.key x l (.error e)) :
    Goes (⟨.fetch key, .ok (some x)⟩ :: l) (.error (.recoverable e))
  | served {x v l served result} (hlive : x.isDeleting = false)
    (h : Change.addFinalizer.Tries x.key x l (.ok v)) (hserves : Serves s key now v served result) :
    Goes (⟨.fetch key, .ok (some x)⟩ :: (l ++ served)) result

/-! ## Every cycle goes one of them -/

variable {s key now} {x : Scaler} {l : List collaborators.Exchange}
  {result : Except CycleError Outcome}

/-- What follows the connection of a live Scaler. -/
theorem serves_of_plays_serveBy {access : Access}
    (h : (serveBy s key now x access).Plays l result) :
    Serves s key now x (⟨.connect x, .ok access⟩ :: l) result := by
  unfold serveBy at h
  cases hresolve : resolve x.spec.periods x.currentPeriod false now with
  | error e =>
    rw [hresolve] at h
    cases e with
    | invalid name flaw =>
      obtain ⟨rfl, rfl⟩ := Program.plays_done_iff.mp h
      exact .undecided hresolve
    | alreadyRun p =>
      simp only at h
      cases hdelay : p.rerunDelay now s.grace with
      | error f =>
        rw [hdelay] at h
        obtain ⟨rfl, rfl⟩ := Program.plays_done_iff.mp h
        exact .overlong hresolve hdelay
      | ok delay =>
        rw [hdelay] at h
        obtain ⟨rfl, rfl⟩ := Program.plays_done_iff.mp h
        exact .waits hresolve hdelay
  | ok r =>
    simp only [hresolve] at h
    cases hidle : r.isIdle with
    | true =>
      rw [hidle, if_pos rfl] at h
      obtain ⟨rfl, rfl⟩ := Program.plays_done_iff.mp h
      exact .idle hresolve hidle
    | false =>
      rw [hidle, if_neg Bool.false_ne_true] at h
      obtain ⟨pass, report, rest, rfl, hpass, hrecord⟩ := Program.plays_bind_iff.mp h
      obtain ⟨writes, answer, tail, rfl, hwrites, hend⟩ := Program.plays_bind_iff.mp hrecord
      have htries := Change.tries_apply hwrites
      cases answer with
      | ok y =>
        obtain ⟨rfl, rfl⟩ := Program.plays_done_iff.mp hend
        rw [List.append_nil]
        exact .recorded hresolve hidle hpass htries
      | error e =>
        obtain ⟨rfl, rfl⟩ := Program.plays_done_iff.mp hend
        rw [List.append_nil]
        exact .unrecorded hresolve hidle hpass htries

/-- **The ways of a live Scaler.** -/
theorem serves_of_plays (h : (serve s key now x).Plays l result) : Serves s key now x l result := by
  obtain ⟨answer, rest, rfl, hanswer⟩ := Program.plays_ask_iff.mp h
  cases answer with
  | error c =>
    obtain ⟨rfl, rfl⟩ := Program.plays_done_iff.mp hanswer
    exact .unconnected
  | ok access => exact serves_of_plays_serveBy hanswer

/-- The end of the way out, after what was done for the resources. -/
theorem departs_of_plays_release {front : List collaborators.Exchange} {period : Option Period}
    {report : Report} (hfront : Restored key now x front period report)
    (h : (release s x period report).Plays l result) : Departs key now x (front ++ l) result := by
  obtain ⟨writes, answer, tail, rfl, hwrites, hend⟩ := Program.plays_bind_iff.mp h
  have htries := Change.tries_apply hwrites
  cases answer with
  | ok y =>
    obtain ⟨rfl, rfl⟩ := Program.plays_done_iff.mp hend
    rw [List.append_nil]
    exact .released hfront htries
  | error e =>
    obtain ⟨rfl, rfl⟩ := Program.plays_done_iff.mp hend
    rw [List.append_nil]
    exact .kept hfront htries

/-- **The ways of a Scaler that goes away.** -/
theorem departs_of_plays (h : (leave s key now x).Plays l result) : Departs key now x l result := by
  unfold leave at h
  cases hrestore : x.spec.restoreOnDelete with
  | false =>
    rw [hrestore, if_neg Bool.false_ne_true] at h
    exact departs_of_plays_release (.none hrestore) h
  | true =>
    rw [hrestore, if_pos rfl] at h
    obtain ⟨answer, rest, rfl, hanswer⟩ := Program.plays_ask_iff.mp h
    cases answer with
    | error c =>
      obtain ⟨rfl, rfl⟩ := Program.plays_done_iff.mp hanswer
      exact .unconnected hrestore
    | ok access =>
      cases hresolve : resolve x.spec.periods x.currentPeriod true now with
      | error e =>
        simp only [hresolve] at hanswer
        obtain ⟨rfl, rfl⟩ := Program.plays_done_iff.mp hanswer
        exact .undecided hrestore hresolve
      | ok r =>
        simp only [hresolve] at hanswer
        obtain ⟨pass, report, tail, rfl, hpass, htail⟩ := Program.plays_bind_iff.mp hanswer
        exact departs_of_plays_release (.pass hrestore hresolve hpass) htail

/-- The ways of the Scaler that was fetched. -/
theorem goes_of_plays_attend (h : (attend s key now x).Plays l result) :
    Goes s key now (⟨.fetch key, .ok (some x)⟩ :: l) result := by
  cases hdeleting : x.isDeleting with
  | true =>
    cases hmarked : x.isMarked with
    | true =>
      rw [attend_leaving hdeleting hmarked] at h
      exact .departed hdeleting hmarked (departs_of_plays h)
    | false =>
      rw [attend, hdeleting, hmarked, if_pos rfl, if_neg Bool.false_ne_true] at h
      obtain ⟨rfl, rfl⟩ := Program.plays_done_iff.mp h
      exact .ignored hdeleting hmarked
  | false =>
    rw [attend_live hdeleting] at h
    obtain ⟨writes, answer, rest, rfl, hwrites, hrest⟩ := Program.plays_bind_iff.mp h
    have htries := Change.tries_apply hwrites
    cases answer with
    | error e =>
      obtain ⟨rfl, rfl⟩ := Program.plays_done_iff.mp hrest
      rw [List.append_nil]
      exact .unmarked hdeleting htries
    | ok v => exact .served hdeleting htries (serves_of_plays hrest)

theorem goes_of_plays (h : (reconcile s key now).Plays l result) : Goes s key now l result := by
  rw [reconcile_eq_course] at h
  obtain ⟨answer, rest, rfl, hanswer⟩ := Program.plays_ask_iff.mp h
  rcases answer with e | _ | x
  · obtain ⟨rfl, rfl⟩ := Program.plays_done_iff.mp hanswer
    exact .unread
  · obtain ⟨rfl, rfl⟩ := Program.plays_done_iff.mp hanswer
    exact .missing
  · exact goes_of_plays_attend hanswer

/-- **Every cycle goes one of the ways**, whatever answers its calls. -/
theorem goes_run {σ : Type} (h : Handler collaborators σ) (s : Settings) (key : Key) (now : Instant)
    (t : σ) : Goes s key now ((reconcile s key now).transcript h t)
      ((reconcile s key now).run h t).1 :=
  goes_of_plays (Program.plays_run _ t)

end PeriodScaler.Cycle
