import PeriodScaler.Controller.Watch
import PeriodScaler.Proofs.Controller.Backoff

/-!
# What a watcher decides, over any history

A watcher is told that a cycle has ended, and is asked later what follows a failure; up to then
other cycles may have ended and other failures may have been followed up. A history is any list of
such turns (`Watcher.Turn`), in any order and for any Scalers, and `Watcher.answer` is what is to be
answered to a turn after a history: it looks at the turns of one Scaler since its last success, and
counts its critical failures there (`Watcher.streak`).

* **`turn_counts`**: one turn is answered so, and the tracker still counts the failures.
* **`follow_counts`**: so is every turn of a history.
* **`follow_alike`**: watchers with alike trackers answer every history alike.
* **`watcher_decides`**: the decisions of a watcher over any history.
-/

namespace PeriodScaler.Watcher

/-! ## Histories -/

/-- What a watcher is told or asked. -/
inductive Turn where
  /-- A cycle of a Scaler has ended. -/
  | ended (key : Key) (elapsed : Span) (result : Except CycleError Outcome)
  /-- A cycle of a Scaler has failed: what follows? -/
  | failed (key : Key) (e : CycleError)

namespace Turn

/-- Whether a turn is a success of a Scaler. -/
def succeeds (key : Key) : Turn → Bool
  | ended k _ (.ok _) => k = key
  | _ => false

/-- Whether a turn is a critical failure of a Scaler. -/
def failsCritically (key : Key) : Turn → Bool
  | failed k e => k = key && !e.isRecoverable
  | _ => false

end Turn

/-- The critical failures of a Scaler since its last success. -/
def streak (history : List Turn) (key : Key) : Nat :=
  (history.reverse.takeWhile fun t => !t.succeeds key).countP (Turn.failsCritically key)

/-- What a watcher answers to a turn: an action, or an error that is handed on. -/
abbrev Answer : Type :=
  Except ControllerError Action

/-- What a watcher answers to a turn, and what it keeps. -/
def turn (w : Watcher) : Turn → Except Fault (Answer × Watcher)
  | .ended key elapsed result => .ok (w.onCycle key elapsed result)
  | .failed key e => do
    let (action, w) ← w.onError key (.cycle e)
    return (.ok action, w)

/-- The answers of a watcher to a history, and what it keeps in the end. -/
def follow (w : Watcher) : List Turn → Except Fault (List Answer × Watcher)
  | [] => .ok ([], w)
  | t :: later => do
    let (action, w) ← w.turn t
    let (actions, w) ← w.follow later
    return (action :: actions, w)

/-- What is to be answered to a turn after a history. -/
def answer (settings : Settings) (shortest longest : Span) (past : List Turn) :
    Turn → Answer
  | .ended _ _ (.ok o) => .ok (.ofRequest o.requeue)
  | .ended _ _ (.error e) => .error (.cycle e)
  | .failed key e =>
    if e.isRecoverable then .ok (.requeue settings.afterError)
    else .ok (.requeue (Backoff.delay shortest longest (streak past key + 1)))

/-- What is to be answered to the turns that follow a history. -/
def answers (settings : Settings) (shortest longest : Span) (past : List Turn) :
    List Turn → List Answer
  | [] => []
  | t :: later =>
    answer settings shortest longest past t :: answers settings shortest longest (past ++ [t]) later

/-! ## The critical failures in a row -/

theorem streak_concat (past : List Turn) (t : Turn) (key : Key) :
    streak (past ++ [t]) key =
      if t.succeeds key then 0
      else streak past key + if t.failsCritically key then 1 else 0 := by
  simp only [streak, List.reverse_append, List.reverse_singleton, List.singleton_append,
    List.takeWhile_cons]
  cases t.succeeds key with
  | true => rfl
  | false =>
    simp only [Bool.not_false, if_true, List.countP_cons, Bool.false_eq_true, if_false]

/-- Turns of other Scalers and recoverable failures do not count. -/
theorem streak_concat_of_neither {t : Turn} {key : Key} (past : List Turn)
    (hsuccess : t.succeeds key = false) (hfailure : t.failsCritically key = false) :
    streak (past ++ [t]) key = streak past key := by
  rw [streak_concat, hsuccess, hfailure]
  rfl

/-- Without a success, the count never falls. -/
theorem streak_le_append (past : List Turn) {later : List Turn} {key : Key}
    (hlater : ∀ t ∈ later, t.succeeds key = false) :
    streak past key ≤ streak (past ++ later) key := by
  induction later generalizing past with
  | nil => rw [List.append_nil]
  | cons t later ih =>
    obtain ⟨ht, hlater⟩ := List.forall_mem_cons.mp hlater
    have hstep : streak past key ≤ streak (past ++ [t]) key := by
      rw [streak_concat, ht, if_neg Bool.false_ne_true]
      exact Nat.le_add_right _ _
    have hrest := ih (past ++ [t]) hlater
    rw [List.append_assoc] at hrest
    exact hstep.trans hrest

/-! ## A turn -/

section Turns

variable {settings : Settings} {shortest longest : Span} {past : List Turn} {w : Watcher}

/-- What a watcher keeps after a history: its settings, and the failures in a row. -/
structure Keeps (settings : Settings) (shortest longest : Span) (past : List Turn) (w : Watcher) :
    Prop where
  settings_eq : w.settings = settings
  tracker : Tracker.Counts shortest longest (streak past) w.tracker

/-- A recoverable failure is followed up after a fixed delay, and leaves the watcher as it is. -/
theorem turn_recoverable (w : Watcher) (key : Key) {e : CycleError} (he : e.isRecoverable = true) :
    w.turn (.failed key e) = .ok (.ok (.requeue w.settings.afterError), w) := by
  simp only [turn, onError, if_pos he, ok_bind]
  rfl

/-- A critical failure is followed up after the delay that the tracker gives. -/
theorem turn_critical (w : Watcher) {key : Key} {e : CycleError} (he : e.isRecoverable = false)
    {delay : Span} {tracker : Tracker} (h : w.tracker.onFailure key = .ok (delay, tracker)) :
    w.turn (.failed key e) = .ok (.ok (.requeue delay), { w with tracker }) := by
  simp only [turn, onError, he, Bool.false_eq_true, if_false, h, ok_bind]
  rfl

/-- A critical failure has no answer if the tracker has none. -/
theorem turn_fault (w : Watcher) {key : Key} {e : CycleError} (he : e.isRecoverable = false)
    {f : Fault} (h : w.tracker.onFailure key = .error f) : w.turn (.failed key e) = .error f := by
  simp only [turn, onError, he, Bool.false_eq_true, if_false, h, error_bind]

/-- **One turn**, whichever it is: it is answered as it is to be, and the tracker goes on counting.
-/
theorem turn_counts (hle : shortest.nanos ≤ longest.nanos)
    (hsum : (Span.mk (2 * longest.nanos)).inRange = true)
    (hw : w.Keeps settings shortest longest past) (t : Turn) :
    ∃ u, w.turn t = .ok (answer settings shortest longest past t, u) ∧
      u.Keeps settings shortest longest (past ++ [t]) := by
  rcases t with ⟨key, elapsed, e | o⟩ | ⟨key, e⟩
  · have hsame : streak (past ++ [.ended key elapsed (.error e)]) = streak past :=
      funext fun k => streak_concat_of_neither past rfl rfl
    exact ⟨_, rfl, hw.settings_eq, hsame ▸ hw.tracker⟩
  · have hdropped : streak (past ++ [.ended key elapsed (.ok o)]) =
        fun k => if k = key then 0 else streak past k := by
      funext k
      simp [streak_concat, Turn.succeeds, Turn.failsCritically, eq_comm]
    refine ⟨_, rfl, hw.settings_eq, ?_⟩
    rw [hdropped]
    exact hw.tracker.onSuccess hle key
  · cases he : e.isRecoverable with
    | true =>
      have hsame : streak (past ++ [.failed key e]) = streak past := by
        funext k
        refine streak_concat_of_neither past rfl ?_
        rw [Turn.failsCritically, he, Bool.not_true, Bool.and_false]
      rw [turn_recoverable w key he, hw.settings_eq, answer, if_pos he]
      exact ⟨w, rfl, hw.settings_eq, hsame ▸ hw.tracker⟩
    | false =>
      have hcounted : streak (past ++ [.failed key e]) =
          fun k => if k = key then streak past k + 1 else streak past k := by
        funext k
        by_cases hk : k = key
        · simp [streak_concat, Turn.succeeds, Turn.failsCritically, he, hk]
        · simp [streak_concat, Turn.succeeds, Turn.failsCritically, hk, Ne.symm hk]
      obtain ⟨tracker, honFailure, hcounts⟩ := hw.tracker.onFailure hsum key
      rw [turn_critical w he honFailure, answer, he, if_neg Bool.false_ne_true]
      exact ⟨_, rfl, hw.settings_eq, hcounted ▸ hcounts⟩

/-- **A history**, turn by turn. By induction on the turns that are left, with what has passed. -/
theorem follow_counts (hle : shortest.nanos ≤ longest.nanos)
    (hsum : (Span.mk (2 * longest.nanos)).inRange = true)
    (hw : w.Keeps settings shortest longest past) (later : List Turn) :
    ∃ u, w.follow later = .ok (answers settings shortest longest past later, u) ∧
      u.Keeps settings shortest longest (past ++ later) := by
  induction later generalizing past w with
  | nil => exact ⟨w, rfl, by rwa [List.append_nil]⟩
  | cons t later ih =>
    obtain ⟨v, hturn, hv⟩ := turn_counts hle hsum hw t
    obtain ⟨u, hlater, hu⟩ := ih hv
    rw [List.append_assoc] at hu
    refine ⟨u, ?_, hu⟩
    rw [follow, hturn, ok_bind]
    simp only [hlater, ok_bind]
    rfl

end Turns

/-! ## Alike watchers -/

section Alike

variable {w w' : Watcher}

/-- Watchers with alike trackers answer a turn alike, and their trackers are alike again. -/
theorem turn_alike (hsettings : w.settings = w'.settings) (h : w.tracker.Alike w'.tracker)
    (t : Turn) :
    (∃ f, w.turn t = .error f ∧ w'.turn t = .error f) ∨
      ∃ action u u', w.turn t = .ok (action, u) ∧ w'.turn t = .ok (action, u') ∧
        u.settings = u'.settings ∧ u.tracker.Alike u'.tracker := by
  rcases t with ⟨key, elapsed, e | o⟩ | ⟨key, e⟩
  · exact Or.inr ⟨_, _, _, rfl, rfl, hsettings, h⟩
  · exact Or.inr ⟨_, _, _, rfl, rfl, hsettings, h.onSuccess key⟩
  · cases he : e.isRecoverable with
    | true =>
      refine Or.inr ⟨_, w, w', turn_recoverable w key he, ?_, hsettings, h⟩
      rw [turn_recoverable w' key he, hsettings]
    | false =>
      rcases h.onFailure key with ⟨f, hw, hw'⟩ | ⟨delay, u, u', hw, hw', hu⟩
      · exact Or.inl ⟨f, turn_fault w he hw, turn_fault w' he hw'⟩
      · exact Or.inr ⟨_, _, _, turn_critical w he hw, turn_critical w' he hw', hsettings, hu⟩

/-- The answers after a turn follow its own. -/
theorem follow_cons_map {u : Watcher} {t : Turn} {action : Answer}
    (h : w.turn t = .ok (action, u)) (later : List Turn) :
    (w.follow (t :: later)).map Prod.fst =
      ((u.follow later).map Prod.fst).map (List.cons action) := by
  rw [follow, h, ok_bind]
  simp only
  cases u.follow later <;> rfl

/-- **Watchers with alike trackers answer every history alike.** -/
theorem follow_alike (hsettings : w.settings = w'.settings) (h : w.tracker.Alike w'.tracker)
    (later : List Turn) :
    (w.follow later).map Prod.fst = (w'.follow later).map Prod.fst := by
  induction later generalizing w w' with
  | nil => rfl
  | cons t later ih =>
    rcases turn_alike hsettings h t with ⟨f, hw, hw'⟩ | ⟨action, u, u', hw, hw', hsettings, hu⟩
    · rw [follow, follow, hw, hw', error_bind]
    · rw [follow_cons_map hw, follow_cons_map hw', ih hsettings hu]

end Alike

/-! ## Any history -/

/-- **The decisions of a watcher over any history**, for bounds of which the longest can be doubled.
Every turn is answered, and so: a success by what its cycle asked for, a recoverable failure by the
fixed delay, and a critical one by the shortest delay times the Fibonacci number of the critical
failures of its Scaler since its last success, this one included, but never more than the longest
delay. In the end a recoverable failure would leave the watcher as it is; until a Scaler succeeds,
its delays do not become shorter; and to drop the entry of a Scaler or to reset its sequence makes
no difference to any answer. -/
theorem watcher_decides (settings : Settings) {shortest longest : Span}
    (hle : shortest.nanos ≤ longest.nanos)
    (hsum : (Span.mk (2 * longest.nanos)).inRange = true) (history : List Turn) :
    ∃ w, (start settings shortest longest).follow history =
        .ok (answers settings shortest longest [] history, w) ∧
      (∀ key e, e.isRecoverable = true →
        w.turn (.failed key e) = .ok (.ok (.requeue settings.afterError), w)) ∧
      (∀ key middle, (∀ t ∈ middle, t.succeeds key = false) →
        (Backoff.delay shortest longest (streak history key + 1)).nanos ≤
            (Backoff.delay shortest longest (streak (history ++ middle) key + 1)).nanos ∧
          (Backoff.delay shortest longest (streak (history ++ middle) key + 1)).nanos ≤
            longest.nanos) ∧
      ∀ key later,
        ({ w with tracker := w.tracker.onSuccess key }.follow later).map Prod.fst =
          ({ w with tracker := w.tracker.restart key }.follow later).map Prod.fst := by
  have hstart : (start settings shortest longest).Keeps settings shortest longest [] :=
    ⟨rfl, Tracker.Counts.empty hle⟩
  obtain ⟨w, hfollow, hw⟩ := follow_counts hle hsum hstart history
  refine ⟨w, hfollow, fun key e he => ?_, fun key middle hmiddle => ⟨?_, ?_⟩, fun key later => ?_⟩
  · rw [turn_recoverable w key he, hw.settings_eq]
  · exact Backoff.delay_mono _ _ (Nat.succ_le_succ (streak_le_append history hmiddle))
  · exact Backoff.delay_le _ _ _
  · have halike := hw.tracker.onSuccess_alike_restart hle key
    refine follow_alike ?_ halike later
    rfl

/-- Two Scalers that fail in turn, one of which succeeds in between. -/
def rough : List Turn :=
  let first : Key := ⟨"ops", "first"⟩
  let second : Key := ⟨"ops", "second"⟩
  let critical := CycleError.critical .cluster
  [.failed first critical, .failed second critical, .failed first critical,
    .failed first (.recoverable .cluster), .failed first critical,
    .ended first .zero (.ok ⟨some (.ofSeconds 300), none, none, .empty⟩), .failed second critical,
    .failed first critical]

/-- With the bounds that are in use: 30, 30, 30 and 60 seconds, and 30 again after the success. -/
theorem rough_decided : ∃ w,
    (start .standard shortestBackoff longestBackoff).follow rough =
      .ok ([30, 30, 30, 30, 60, 300, 30, 30].map fun n => .ok (.requeue (.ofSeconds n)), w) := by
  have hanswers : answers .standard shortestBackoff longestBackoff [] rough =
      [30, 30, 30, 30, 60, 300, 30, 30].map fun n => .ok (.requeue (.ofSeconds n)) := by
    decide +kernel
  obtain ⟨w, hfollow, -⟩ :=
    @watcher_decides .standard shortestBackoff longestBackoff (by decide) (by decide) rough
  exact ⟨w, hanswers ▸ hfollow⟩

end PeriodScaler.Watcher
