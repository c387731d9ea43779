import PeriodScaler.Cycle.Reconcile
import PeriodScaler.Cycle.Scripted
import PeriodScaler.Proofs.Run
import Mathlib.Data.List.Basic

/-!
# How chains run

A chain runs its stages one after another until one of them stops or fails, and of all delays that
these stages ask for the first one that is more than nothing counts. Both hold in every monad whose
computations can be run from states (`Runner`): for programs under any handler, and for plain
functions on states.

A stage may do anything with its context, but it asks for the next cycle through requests alone; an
`Asking` stage comes with the delays that it asks for. Its requests may be many, may be for no time
at all, and may come when a delay was asked for before. The stages of a cycle are such stages.

To see which stages run, `Chain.noted` puts a mark behind each of them: its place in the chain.

* **`requeue_requeueAll`**: of several requests the first one counts that is more than nothing.
* **`Ends`**: the ways in which a chain ends, each after a number of its stages.
* **`chain_runs_first_stages`**: a chain runs its stages from the first one up to the one that stops
  or fails, each once, and its delay is the first one that they ask for.
-/

namespace PeriodScaler

/-! ## Requests for the next cycle -/

namespace Context

variable {c : Context}

/-- The state after several requests for the next cycle, one after another. -/
def requeueAll (delays : List Span) (c : Context) : Context :=
  delays.foldl (fun c delay => c.requeueAfter delay) c

theorem requeue_requeueAfter (delay : Span) (c : Context) :
    (c.requeueAfter delay).requeue =
      c.requeue.or (if delay.isZero then none else some delay) := by
  unfold requeueAfter requestRequeue
  by_cases hzero : delay.isZero = true <;> cases hc : c.requeue <;> simp [hzero, hc]

/-- **Of several requests** the first one counts that is more than nothing, if none counted
before. -/
theorem requeue_requeueAll (delays : List Span) (c : Context) :
    (c.requeueAll delays).requeue = c.requeue.or (delays.find? fun delay => !delay.isZero) := by
  induction delays generalizing c with
  | nil => exact Option.or_none.symm
  | cons delay delays ih =>
    rw [requeueAll, List.foldl_cons]
    refine (ih (c.requeueAfter delay)).trans ?_
    rw [requeue_requeueAfter, Option.or_assoc, List.find?_cons]
    by_cases hzero : delay.isZero = true <;> simp [hzero]

theorem requeue_requeueAll_append (delays later : List Span) (c : Context) :
    (c.requeueAll (delays ++ later)).requeue =
      (c.requeueAll delays).requeue.or (later.find? fun delay => !delay.isZero) := by
  rw [requeue_requeueAll, requeue_requeueAll, List.find?_append, Option.or_assoc]

/-- What a request makes of the delay, it makes of it in every state with the same one. -/
theorem requeue_requeueAfter_eq {c' : Context} (h : c'.requeue = c.requeue) (delay : Span) :
    (c'.requeueAfter delay).requeue = (c.requeueAll [delay]).requeue := by
  rw [requeue_requeueAfter, h, ← requeue_requeueAfter]
  rfl

end Context

/-- The state that a stage leaves. -/
def Flow.context : Flow → Context
  | goOn c => c
  | stop c => c

/-! ## Computations that are run from states -/

/-- A way to run the computations of a monad: from a state to a result and the state after it. -/
structure Runner (m : Type → Type) [Monad m] (σ : Type) where
  run {α : Type} : m α → σ → α × σ
  run_pure {α : Type} (a : α) (s : σ) : run (pure a) s = (a, s)
  run_bind {α β : Type} (x : m α) (f : α → m β) (s : σ) :
    run (x >>= f) s = run (f (run x s).1) (run x s).2

namespace Runner

variable {σ : Type}

/-- Programs are run against a handler. -/
def ofHandler {I : Interface} (h : Handler I σ) : Runner (Program I) σ where
  run p s := p.run h s
  run_pure _ _ := rfl
  run_bind := Program.run_bind h

/-- Functions on states run as they are. -/
def ofState : Runner (StateM σ) σ where
  run x s := x s
  run_pure _ _ := rfl
  run_bind _ _ _ := rfl

variable {m : Type → Type} [Monad m]

/-- Computations that leave marks are run with the marks so far. -/
def noting (R : Runner m σ) : Runner (StateT (List Nat) m) (List Nat × σ) where
  run x s :=
    let r := R.run (x s.1) s.2
    (r.1.1, (r.1.2, r.2))
  run_pure a s := by
    have hpure := R.run_pure (a, s.1) s.2
    exact congrArg (fun r => (r.1.1, (r.1.2, r.2))) hpure
  run_bind x f s := by
    have hbind := R.run_bind (x s.1) (fun r => f r.1 r.2) s.2
    exact congrArg (fun r => (r.1.1, (r.1.2, r.2))) hbind

end Runner

section Stages

variable {m : Type → Type} [Monad m] {σ : Type} {R : Runner m σ}

/-- A stage that leaves a mark when it has run. -/
def Stage.noted (place : Nat) (stage : Stage m) : Stage (StateT (List Nat) m) where
  name := stage.name
  execute c := fun marks => do
    let answer ← stage.execute c
    return (answer, marks ++ [place])

/-- A chain whose stages leave their places as marks, counted from some place on. -/
def Chain.noted (place : Nat) : Chain m → Chain (StateT (List Nat) m)
  | [] => []
  | stage :: rest => stage.noted place :: Chain.noted (place + 1) rest

/-- A mark changes nothing else. -/
theorem Stage.run_noted (R : Runner m σ) (place : Nat) (stage : Stage m) (c : Context)
    (marks : List Nat) (s : σ) :
    R.noting.run ((stage.noted place).execute c) (marks, s) =
      ((R.run (stage.execute c) s).1, (marks ++ [place], (R.run (stage.execute c) s).2)) := by
  have hrun := R.run_bind (stage.execute c) (fun answer => pure (answer, marks ++ [place])) s
  rw [R.run_pure] at hrun
  exact congrArg (fun r => (r.1.1, (r.1.2, r.2))) hrun

namespace Chain

variable {stage : Stage m} {rest : Chain m} {c next last : Context} {s s' : σ}

theorem run_execute_goOn (h : R.run (stage.execute c) s = (.ok (.goOn next), s')) :
    R.run (execute (stage :: rest) c) s = R.run (execute rest next) s' := by
  rw [execute, R.run_bind, h]

theorem run_execute_stop (h : R.run (stage.execute c) s = (.ok (.stop last), s')) :
    R.run (execute (stage :: rest) c) s = (.ok ⟨last, some stage.name⟩, s') := by
  rw [execute, R.run_bind, h]
  exact R.run_pure _ _

theorem run_execute_error {e : CycleError}
    (h : R.run (stage.execute c) s = (.error e, s')) :
    R.run (execute (stage :: rest) c) s = (.error e, s') := by
  rw [execute, R.run_bind, h]
  exact R.run_pure _ _

end Chain

end Stages

/-! ## Stages with their requests -/

/-- A stage with the delays that it asks for. -/
structure Asking {m : Type → Type} [Monad m] {σ : Type} (R : Runner m σ) where
  stage : Stage m
  /-- The delays that are asked for from a context and a state, one after another. -/
  asks : Context → σ → List Span
  /-- Unless the stage fails, its requests are all that happens to the delay. -/
  requeue_eq {c : Context} {s s' : σ} {flow : Flow}
    (h : R.run (stage.execute c) s = (.ok flow, s')) :
    flow.context.requeue = (c.requeueAll (asks c s)).requeue

namespace Asking

variable {m : Type → Type} [Monad m] {σ : Type} {R : Runner m σ}

/-- The chain of some stages. -/
def chain (l : List (Asking R)) : Chain m :=
  l.map Asking.stage

/-- All stages of a list go on, one after another; the delays are those that they ask for. -/
inductive Passes : List (Asking R) → Context → σ → List Span → Context → σ → Prop where
  | nil {c s} : Passes [] c s [] c s
  | cons {a l c next last s s' s'' delays}
    (hgoes : R.run (a.stage.execute c) s = (.ok (.goOn next), s'))
    (hrest : Passes l next s' delays last s'') : Passes (a :: l) c s (a.asks c s ++ delays) last s''

/-- How a chain ends: after how many of its stages and after which requests, and with what. -/
inductive Ends (c : Context) (s : σ) :
    List (Asking R) → Nat → List Span → Except CycleError ChainEnd → σ → Prop where
  /-- All stages go on. -/
  | through {l delays last s'} (hpasses : Passes l c s delays last s') :
    Ends c s l l.length delays (.ok ⟨last, none⟩) s'
  /-- All stages before one go on, and this one stops. -/
  | stopped {before after a delays next last s' s''} (hpasses : Passes before c s delays next s')
    (hstops : R.run (a.stage.execute next) s' = (.ok (.stop last), s'')) :
    Ends c s (before ++ a :: after) (before.length + 1) (delays ++ a.asks next s')
      (.ok ⟨last, some a.stage.name⟩) s''
  /-- All stages before one go on, and this one fails. -/
  | failed {before after a delays next e s' s''} (hpasses : Passes before c s delays next s')
    (hfails : R.run (a.stage.execute next) s' = (.error e, s'')) :
    Ends c s (before ++ a :: after) (before.length + 1) (delays ++ a.asks next s') (.error e) s''

variable {a : Asking R} {l before : List (Asking R)} {c next last : Context} {s s' s'' : σ}
  {delays : List Span} {ran : Nat} {result : Except CycleError ChainEnd}

theorem chain_append (l l' : List (Asking R)) : chain (l ++ l') = chain l ++ chain l' :=
  List.map_append

/-! ### Delays -/

theorem Passes.requeue (h : Passes l c s delays last s') :
    last.requeue = (c.requeueAll delays).requeue := by
  induction h with
  | nil => rfl
  | @cons a l c next last s s' s'' delays hgoes hrest ih =>
    rw [ih, Context.requeue_requeueAll_append, ← a.requeue_eq hgoes, Context.requeue_requeueAll]
    rfl

/-- **The delay at the end of a chain** is the first one that is more than nothing of all that its
stages ask for, if there was none before. -/
theorem Ends.requeue {e : ChainEnd} (h : Ends c s l ran delays (.ok e) s') :
    e.context.requeue = c.requeue.or (delays.find? fun delay => !delay.isZero) := by
  cases h with
  | through hpasses => rw [hpasses.requeue, Context.requeue_requeueAll]
  | @stopped before after a delays next last s' s'' hpasses hstops =>
    have hlast : last.requeue = _ := a.requeue_eq hstops
    rw [← Context.requeue_requeueAll, Context.requeue_requeueAll_append, ← hpasses.requeue, hlast,
      Context.requeue_requeueAll]

/-! ### Runs -/

/-- A chain runs on after the stages that go on. -/
theorem Passes.run_execute (h : Passes before c s delays next s') (rest : Chain m) :
    R.run ((chain before ++ rest).execute c) s = R.run (rest.execute next) s' := by
  induction h with
  | nil => rfl
  | cons hgoes hrest ih => exact (Chain.run_execute_goOn hgoes).trans ih

theorem run_noted {stage : Stage m} {answer : Except CycleError Flow}
    (h : R.run (stage.execute c) s = (answer, s')) (place : Nat) (marks : List Nat) :
    R.noting.run ((stage.noted place).execute c) (marks, s) = (answer, (marks ++ [place], s')) := by
  rw [Stage.run_noted, h]

theorem Passes.run_noted (h : Passes before c s delays next s') (place : Nat) (rest : Chain m)
    (marks : List Nat) :
    R.noting.run (((chain before ++ rest).noted place).execute c) (marks, s) =
      R.noting.run ((rest.noted (place + before.length)).execute next)
        (marks ++ List.range' place before.length, s') := by
  induction h generalizing place marks with
  | nil => rw [List.length_nil, List.range'_zero, List.append_nil]; rfl
  | @cons a l c next last s s' s'' delays hgoes hrest ih =>
    have hgoes' := Asking.run_noted hgoes place marks
    refine (Chain.run_execute_goOn hgoes').trans ((ih (place + 1) _).trans ?_)
    rw [List.length_cons, List.range'_succ, List.append_assoc, Nat.add_right_comm]
    rfl

/-- **A chain runs as it ends.** -/
theorem Ends.run_execute (h : Ends c s l ran delays result s') :
    R.run ((chain l).execute c) s = (result, s') := by
  cases h with
  | through hpasses =>
    have hrun := hpasses.run_execute []
    rw [List.append_nil] at hrun
    exact hrun.trans (R.run_pure _ _)
  | stopped hpasses hstops =>
    rw [chain_append]
    exact (hpasses.run_execute _).trans (Chain.run_execute_stop hstops)
  | failed hpasses hfails =>
    rw [chain_append]
    exact (hpasses.run_execute _).trans (Chain.run_execute_error hfails)

theorem Passes.run_noted_zero (h : Passes before c s delays next s') (rest : Chain m) :
    R.noting.run (((chain before ++ rest).noted 0).execute c) ([], s) =
      R.noting.run ((rest.noted before.length).execute next) (List.range before.length, s') := by
  have hrun := h.run_noted 0 rest []
  rwa [Nat.zero_add, List.nil_append, ← List.range_eq_range'] at hrun

/-- **The stages that run** are the first ones, in their order, each once. -/
theorem Ends.run_noted (h : Ends c s l ran delays result s') :
    R.noting.run (((chain l).noted 0).execute c) ([], s) = (result, (List.range ran, s')) := by
  cases h with
  | through hpasses =>
    have hrun := hpasses.run_noted_zero []
    rw [List.append_nil] at hrun
    exact hrun.trans (R.noting.run_pure _ _)
  | stopped hpasses hstops =>
    rw [chain_append, List.range_succ]
    exact (hpasses.run_noted_zero _).trans
      (Chain.run_execute_stop (Asking.run_noted hstops _ _))
  | failed hpasses hfails =>
    rw [chain_append, List.range_succ]
    exact (hpasses.run_noted_zero _).trans
      (Chain.run_execute_error (Asking.run_noted hfails _ _))

/-! ### Every chain ends -/

/-- A stage that goes on comes before the end of the others. -/
theorem Ends.cons (hgoes : R.run (a.stage.execute c) s = (.ok (.goOn next), s'))
    (h : Ends next s' l ran delays result s'') :
    Ends c s (a :: l) (ran + 1) (a.asks c s ++ delays) result s'' := by
  cases h with
  | through hpasses => exact .through (hpasses.cons hgoes)
  | stopped hpasses hstops =>
    rw [← List.append_assoc]
    exact .stopped (hpasses.cons hgoes) hstops
  | failed hpasses hfails =>
    rw [← List.append_assoc]
    exact .failed (hpasses.cons hgoes) hfails

theorem exists_ends (l : List (Asking R)) (c : Context) (s : σ) :
    ∃ ran delays result s', Ends c s l ran delays result s' := by
  induction l generalizing c s with
  | nil => exact ⟨0, [], _, s, .through .nil⟩
  | cons a l ih =>
    rcases hrun : R.run (a.stage.execute c) s with ⟨e | ⟨next⟩ | ⟨last⟩, s'⟩
    · have hends : Ends c s ([] ++ a :: l) 1 _ _ s' := .failed .nil hrun
      exact ⟨1, _, _, s', hends⟩
    · obtain ⟨ran, delays, result, s'', hends⟩ := ih next s'
      exact ⟨ran + 1, _, result, s'', hends.cons hrun⟩
    · have hends : Ends c s ([] ++ a :: l) 1 _ _ s' := .stopped .nil hrun
      exact ⟨1, _, _, s', hends⟩

/-- **A chain runs its first stages**, all of them or those up to the first one that does not go on:
in their order and each once, as their places show. Its result is the error of this stage, or the
context that is left and the name of the stage that stopped it; and its delay is the first one that
is more than nothing of all that the stages that ran have asked for. -/
theorem chain_runs_first_stages (l : List (Asking R)) (c : Context) (s : σ) :
    ∃ ran delays result s', Ends c s l ran delays result s' ∧
      R.run ((chain l).execute c) s = (result, s') ∧
      R.noting.run (((chain l).noted 0).execute c) ([], s) = (result, (List.range ran, s')) ∧
      ∀ e, result = .ok e →
        e.context.requeue = c.requeue.or (delays.find? fun delay => !delay.isZero) := by
  obtain ⟨ran, delays, result, s', hends⟩ := exists_ends l c s
  refine ⟨ran, delays, result, s', hends, hends.run_execute, hends.run_noted, ?_⟩
  rintro e rfl
  exact hends.requeue

end Asking

/-! ## Scripts -/

namespace Scripted

/-- An act leaves the state as the script has made it. -/
theorem Act.context_perform {a : Act} {c : Context} {t t' : Trace} {flow : Flow}
    (h : a.perform c t = (.ok flow, t')) : flow.context = c := by
  have hflow := congrArg Prod.fst h
  cases a with
  | goOn | stop | cancel =>
    obtain rfl := Except.ok.inj hflow
    rfl
  | fail e => cases hflow
  | call failure =>
    simp only [perform] at hflow
    split at hflow
    · obtain rfl := Except.ok.inj hflow
      rfl
    · cases hflow
  | needScaler =>
    simp only [perform] at hflow
    split at hflow
    · obtain rfl := Except.ok.inj hflow
      rfl
    · cases hflow

/-- The stage of a script asks for the delay that the script names. -/
def Script.asking (script : Script) : Asking (Runner.ofState (σ := Trace)) where
  stage := script.stage
  asks _ _ := script.requeue.toList
  requeue_eq h := by
    have hcontext := Act.context_perform h
    rw [hcontext]
    cases script.requeue <;> rfl

/-- A request for nothing does not count, and one that comes later neither. -/
example :
    let (result, trace) := run [⟨"a", some .zero, .goOn⟩, ⟨"b", some (.ofSeconds 30), .goOn⟩,
      ⟨"c", some (.ofSeconds 300), .stop⟩, ⟨"d", none, .goOn⟩]
      (.start ⟨"default", "nightly"⟩ default)
    trace.ran = ["a", "b", "c"] ∧ result.toOption.map ChainEnd.stoppedBy = some (some "c") ∧
      (result.toOption.bind fun e => e.context.requeue) = some (.ofSeconds 30) := by
  decide

end Scripted

/-! ## The stages of a cycle -/

/-- Whatever answers a stage, it leaves a delay unless it fails. -/
def LeavesDelay {σ : Type} (h : Handler collaborators σ) (delay : Option Span)
    (p : Work (Except CycleError Flow)) : Prop :=
  p.Ensures h (fun _ => True) fun answer _ =>
    ∀ flow, answer = .ok flow → flow.context.requeue = delay

section LeavesDelay

variable {σ α : Type} {h : Handler collaborators σ} {c : Context} {delay : Option Span}

theorem leaves_goOn (hc : c.requeue = delay) : LeavesDelay h delay (Stages.goOn c) := by
  rintro s - flow hflow
  obtain rfl := Except.ok.inj hflow
  exact hc

theorem leaves_stop (hc : c.requeue = delay) : LeavesDelay h delay (Stages.stop c) := by
  rintro s - flow hflow
  obtain rfl := Except.ok.inj hflow
  exact hc

theorem leaves_fail (e : CycleError) : LeavesDelay h delay (Stages.fail e) := by
  rintro s - flow hflow
  cases hflow

theorem leaves_ask {call : Call} {next : Except Cause call.Result → Work (Except CycleError Flow)}
    (hnext : ∀ answer, LeavesDelay h delay (next answer)) :
    LeavesDelay h delay (.ask (I := collaborators) call next) :=
  Program.Ensures.ask (fun _ _ => True) (fun _ _ => trivial) hnext

theorem leaves_bind {p : Work α} {f : α → Work (Except CycleError Flow)}
    (hf : ∀ a, LeavesDelay h delay (f a)) : LeavesDelay h delay (p.bind f) :=
  have hp : p.Ensures h (fun _ => True) fun _ _ => True := fun _ _ => trivial
  hp.bind hf

theorem leaves_withScaler {f : Scaler → Work (Except CycleError Flow)}
    (hf : ∀ x, c.fetched = .ok x → LeavesDelay h delay (f x)) :
    LeavesDelay h delay (Stages.withScaler c f) := by
  unfold Stages.withScaler
  split
  · exact hf _ ‹_›
  · exact leaves_fail _

end LeavesDelay

namespace Stages

variable {σ : Type} {h : Handler collaborators σ} {c : Context}

theorem leaves_fetch : LeavesDelay h c.requeue (fetch.execute c) := by
  refine leaves_ask fun answer => ?_
  rcases answer with e | _ | x
  · exact leaves_fail _
  · exact leaves_fail _
  · exact leaves_goOn rfl

theorem leaves_finalizer (attempts : Nat) :
    LeavesDelay h c.requeue ((finalizer attempts).execute c) := by
  refine leaves_withScaler fun x _ => ?_
  split
  · split
    · exact leaves_goOn rfl
    · exact leaves_stop rfl
  · split
    · exact leaves_goOn rfl
    · refine leaves_bind fun answer => ?_
      cases answer with
      | ok updated => exact leaves_goOn rfl
      | error e => exact leaves_fail _

theorem leaves_auth : LeavesDelay h c.requeue (auth.execute c) := by
  simp only [auth]
  split
  · exact leaves_goOn rfl
  · refine leaves_withScaler fun x _ => leaves_ask fun answer => ?_
    cases answer with
    | ok access => exact leaves_goOn rfl
    | error e => exact leaves_fail _

theorem leaves_scaling : LeavesDelay h c.requeue (scaling.execute c) := by
  simp only [scaling]
  split
  · exact leaves_bind fun report => leaves_goOn rfl
  · exact leaves_goOn rfl

/-- What the period stage asks for: the wait for a period that has run, or the steady delay when
there is nothing to do. -/
def periodAsks (steady grace : Span) (c : Context) : List Span :=
  if c.leavesResources then []
  else match c.fetched with
    | .error _ => []
    | .ok x =>
      match resolve x.spec.periods x.currentPeriod c.restoreRequested c.now with
      | .error (.alreadyRun p) => (p.rerunDelay c.now grace).toOption.toList
      | .error (.invalid _ _) => []
      | .ok r => if r.isIdle then [steady] else []

theorem leaves_period (steady grace : Span) :
    LeavesDelay h (c.requeueAll (periodAsks steady grace c)).requeue
      ((period steady grace).execute c) := by
  simp only [period, periodAsks]
  by_cases hleaving : c.leavesResources = true
  · rw [if_pos hleaving, if_pos hleaving]
    exact leaves_goOn rfl
  · rw [if_neg hleaving, if_neg hleaving]
    by_cases hoffline : c.access.isNone = true
    · rw [if_pos hoffline]
      exact leaves_fail _
    · rw [if_neg hoffline]
      refine leaves_withScaler fun x hx => ?_
      simp only [hx]
      cases resolve x.spec.periods x.currentPeriod c.restoreRequested c.now with
      | error e =>
        cases e with
        | invalid name flaw => exact leaves_fail _
        | alreadyRun p =>
          simp only
          cases p.rerunDelay c.now grace with
          | ok delay => exact leaves_stop rfl
          | error f => exact leaves_fail _
      | ok r =>
        simp only
        by_cases hidle : r.isIdle = true
        · rw [if_pos hidle, if_pos hidle]
          exact leaves_stop (Context.requeue_requeueAfter_eq (by rfl) steady)
        · rw [if_neg hidle, if_neg hidle]
          exact leaves_goOn rfl

/-- What the last stage asks for: the steady delay, unless the Scaler goes away. -/
def statusAsks (steady : Span) (c : Context) : List Span :=
  if c.finalizing then [] else [steady]

theorem leaves_status (attempts : Nat) (steady : Span) :
    LeavesDelay h (c.requeueAll (statusAsks steady c)).requeue
      ((status attempts steady).execute c) := by
  refine leaves_withScaler fun x _ => ?_
  unfold statusAsks
  split
  · refine leaves_bind fun answer => ?_
    cases answer with
    | ok updated => exact leaves_stop rfl
    | error e => exact leaves_fail _
  · split
    · exact leaves_fail _
    · refine leaves_bind fun answer => ?_
      cases answer with
      | ok updated => exact leaves_goOn (Context.requeue_requeueAfter_eq (by rfl) steady)
      | error e => exact leaves_fail _

/-- A stage whose delay is known asks as that tells. -/
def asking (h : Handler collaborators σ) (stage : Stage Work) (asks : Context → List Span)
    (hleaves : ∀ c, LeavesDelay h (c.requeueAll (asks c)).requeue (stage.execute c)) :
    Asking (Runner.ofHandler h) where
  stage := stage
  asks c _ := asks c
  requeue_eq {c s s' flow} hrun := by
    have hflow := hleaves c s trivial flow
    exact hflow (congrArg Prod.fst hrun)

end Stages

namespace Cycle

variable {σ : Type}

/-- The stages of a cycle with the delays that they ask for: only two of them ask for any. -/
def asking (s : Settings) (h : Handler collaborators σ) : List (Asking (Runner.ofHandler h)) :=
  [Stages.asking h Stages.fetch (fun _ => []) fun _ => Stages.leaves_fetch,
    Stages.asking h (Stages.finalizer s.attempts) (fun _ => []) fun _ =>
      Stages.leaves_finalizer s.attempts,
    Stages.asking h Stages.auth (fun _ => []) fun _ => Stages.leaves_auth,
    Stages.asking h (Stages.period s.steady s.grace) (Stages.periodAsks s.steady s.grace) fun _ =>
      Stages.leaves_period s.steady s.grace,
    Stages.asking h Stages.scaling (fun _ => []) fun _ => Stages.leaves_scaling,
    Stages.asking h (Stages.status s.attempts s.steady) (Stages.statusAsks s.steady) fun _ =>
      Stages.leaves_status s.attempts s.steady]

theorem chain_asking (s : Settings) (h : Handler collaborators σ) :
    Asking.chain (asking s h) = stages s := rfl

/-- **The delay of a cycle** is the first one that is more than nothing of all that its stages have
asked for, up to the one that ended it. -/
theorem requeue_of_reconcile {s : Settings} {h : Handler collaborators σ} {key : Key}
    {now : Instant} {t : σ} {o : Outcome} (ho : ((reconcile s key now).run h t).1 = .ok o) :
    ∃ ran delays e t', Asking.Ends (.start key now) t (asking s h) ran delays (.ok e) t' ∧
      o.stoppedBy = e.stoppedBy ∧ o.requeue = delays.find? fun delay => !delay.isZero := by
  obtain ⟨ran, delays, result, t', hends⟩ := Asking.exists_ends (asking s h) (.start key now) t
  have hrun := hends.run_execute
  rw [chain_asking] at hrun
  change ((stages s).execute (.start key now)).run h t = (result, t') at hrun
  have houtcome : result.map outcome = .ok o := by
    rw [← ho, reconcile, Program.bind_eq, Program.run_bind, hrun]
    rfl
  cases result with
  | error e => cases houtcome
  | ok e =>
    obtain rfl := Except.ok.inj houtcome
    exact ⟨ran, delays, e, t', hends, rfl, hends.requeue.trans (Option.none_or)⟩

end Cycle

end PeriodScaler
