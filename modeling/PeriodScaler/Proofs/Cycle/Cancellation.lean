import PeriodScaler.Memory.World
import PeriodScaler.Proofs.Cycle.Ways

/-!
# Cancelled cycles

A cycle under a token that fires before one of its calls, whichever call that is and whatever
answers the calls. Up to there the cycle is the one that nobody cancels: the same calls are started
and get the same answers. From there on no call is started, so nothing behind the calls changes any
more; a list of failures that cancellation has caused is not recorded, and a marker that is still
there stays.

`Handler.noting` writes down which calls reach a handler. `Chain.byStage` tells for each exchange of
a chain which stage made it, for only the scaling stage goes on after a refusal.

* **`started_before`**, **`refused_after`**: what a program does before and after its token fires.
* **`isResource_of_byStage`**: the calls for resources are those of the scaling stage.
* **`Goes.cancelled`**: a refusal elsewhere ends the cycle.
* **`cancelled_before`**: every cycle, under a token that fires before any one of its calls.
-/

namespace PeriodScaler

open Memory (World)

variable {σ α : Type} {h : Handler collaborators σ}

/-! ## Programs under a token -/

/-- A handler that notes the calls that reach it, each with its answer. -/
def Handler.noting (h : Handler collaborators σ) :
    Handler collaborators (List collaborators.Exchange × σ) :=
  fun c (noted, s) => ((h c s).1, noted ++ [⟨c, (h c s).1⟩], (h c s).2)

/-- A token that fires before the call of this number, counted from zero. -/
def Token.before : Nat → Token
  | 0 => cancelled
  | n + 1 => after (n + 1)

/-- Whether an exchange is a call that was refused because of a cancellation. -/
def Interface.Exchange.IsRefused (e : collaborators.Exchange) : Prop :=
  e.answer = .error .cancelled

namespace Token

theorem finishCall_before_succ (n : Nat) : (before (n + 1)).finishCall = before n := by
  cases n <;> rfl

/-- Until a token fires, calls are answered, and it comes nearer with each. -/
theorem watch_before_succ (h : Handler collaborators σ) (c : Call) (n : Nat) (s : σ) :
    watch h c (before (n + 1), s) = ((h c s).1, before n, (h c s).2) := by
  rw [← finishCall_before_succ n]
  rfl

/-- Once a token has fired, calls are refused and nothing is asked. -/
theorem watch_cancelled (h : Handler collaborators σ) (c : Call) (s : σ) :
    watch h c (cancelled, s) = (.error .cancelled, cancelled, s) := rfl

end Token

namespace Program

open Token (watch before cancelled)

/-- The state after the first calls of a run, so many, or after all of them. -/
def stateAfter (h : Handler collaborators σ) : Nat → Work α → σ → σ
  | 0, _, s => s
  | _ + 1, done _, s => s
  | n + 1, ask c next, s => stateAfter h n (next (h c s).1) (h c s).2

/-- A token that has fired leaves everything as it is. -/
theorem run_cancelled (p : Work α) (s : σ) :
    (p.run (watch h) (cancelled, s)).2 = (cancelled, s) := by
  induction p with
  | done a => rfl
  | ask c next ih =>
    rw [run_of_answer (Token.watch_cancelled h c s)]
    exact ih (.error .cancelled)

/-- A token that has fired refuses every call. -/
theorem isRefused_of_cancelled (p : Work α) (s : σ) :
    ∀ e ∈ p.transcript (watch h) (cancelled, s), e.IsRefused := by
  induction p with
  | done a => exact fun e he => absurd he List.not_mem_nil
  | ask c next ih =>
    rw [transcript_of_answer (Token.watch_cancelled h c s)]
    exact List.forall_mem_cons.mpr ⟨rfl, ih (.error .cancelled)⟩

/-- **What is started before a token fires**, and the state that it leaves: the first calls of the
run that nobody cancels. By induction on the program, with one call less before the token fires. -/
theorem started_before (h : Handler collaborators σ) (n : Nat) (p : Work α)
    (noted : List collaborators.Exchange) (s : σ) :
    (p.run (watch h.noting) (before n, noted, s)).2.2 =
      (noted ++ (p.transcript h s).take n, stateAfter h n p s) := by
  induction p generalizing n noted s with
  | done a => cases n <;> simp [stateAfter]
  | ask c next ih =>
    cases n with
    | zero =>
      rw [before, run_cancelled, List.take_zero, List.append_nil, stateAfter]
    | succ n =>
      rw [run_of_answer (Token.watch_before_succ h.noting c n (noted, s)), ih, transcript_ask,
        List.take_succ_cons, stateAfter]
      simp only [Handler.noting, List.append_assoc, List.singleton_append]

/-- **What is asked after a token has fired** is refused. -/
theorem refused_after (h : Handler collaborators σ) (n : Nat) (p : Work α) (s : σ) :
    ∀ e ∈ (p.transcript (watch h) (before n, s)).drop n, e.IsRefused := by
  induction p generalizing n s with
  | done a =>
    rw [transcript_done, List.drop_nil]
    exact fun e he => absurd he List.not_mem_nil
  | ask c next ih =>
    cases n with
    | zero => exact isRefused_of_cancelled (.ask c next) s
    | succ n =>
      rw [transcript_of_answer (Token.watch_before_succ h c n s), List.drop_succ_cons]
      exact ih (h c s).1 n (h c s).2

end Program

/-! ## The stages of the exchanges -/

namespace Chain

/-- The exchanges of a chain, each with the name of the stage that made it. -/
def byStage (h : Handler collaborators σ) :
    Chain Work → Context → σ → List (String × collaborators.Exchange)
  | [], _, _ => []
  | stage :: rest, c, s =>
    ((stage.execute c).transcript h s).map (Prod.mk stage.name) ++
      match (stage.execute c).run h s with
      | (.ok (.goOn next), s) => byStage h rest next s
      | _ => []

/-- They are the exchanges of the chain. -/
theorem map_snd_byStage (chain : Chain Work) (c : Context) (s : σ) :
    (chain.byStage h c s).map Prod.snd = (chain.execute c).transcript h s := by
  induction chain generalizing c s with
  | nil => rfl
  | cons stage rest ih =>
    rw [byStage, execute, Program.bind_eq, Program.transcript_bind, List.map_append, List.map_map]
    congr 1
    · exact List.map_id _
    · rcases (stage.execute c).run h s with ⟨e | ⟨next⟩ | ⟨last⟩, s'⟩
      · rfl
      · exact ih next s'
      · rfl

end Chain

theorem Change.onStore_apply (c : Change) (x : Scaler) (attempts : Nat) :
    (c.apply x attempts).Calls fun call : Call => call.isResource = false :=
  c.calls_apply (fun _ => by cases c <;> rfl) (fun _ => rfl) x attempts

namespace Stages

variable {c : Context} {Q : Call → Prop}

theorem calls_withScaler {f : Scaler → Work (Except CycleError Flow)}
    (hf : ∀ x, (f x).Calls Q) : (withScaler c f).Calls Q := by
  unfold withScaler
  split
  · exact hf _
  · trivial

theorem calls_scaling : OnResources (scaling.execute c) := by
  simp only [scaling]
  split
  · exact (onResources_setAll _ _ _ _).bind fun _ => trivial
  · trivial

theorem calls_fetch : (fetch.execute c).Calls fun call : Call => call.isResource = false := by
  refine Program.Calls.ask rfl fun answer => ?_
  rcases answer with e | _ | x <;> trivial

theorem calls_finalizer (attempts : Nat) :
    ((finalizer attempts).execute c).Calls fun call : Call => call.isResource = false := by
  refine calls_withScaler fun x => ?_
  split
  · split <;> trivial
  · split
    · trivial
    · refine (Change.onStore_apply .addFinalizer x attempts).bind fun answer => ?_
      cases answer <;> trivial

theorem calls_auth : (auth.execute c).Calls fun call : Call => call.isResource = false := by
  simp only [auth]
  split
  · trivial
  · refine calls_withScaler fun x => Program.Calls.ask rfl fun answer => ?_
    cases answer <;> trivial

theorem calls_period (steady grace : Span) :
    ((period steady grace).execute c).Calls fun call : Call => call.isResource = false := by
  simp only [period]
  split
  · trivial
  · split
    · trivial
    · refine calls_withScaler fun x => ?_
      split
      · split <;> trivial
      · trivial
      · split <;> trivial

theorem calls_status (attempts : Nat) (steady : Span) :
    ((status attempts steady).execute c).Calls fun call : Call => call.isResource = false := by
  refine calls_withScaler fun x => ?_
  split
  · refine (Change.onStore_apply .removeFinalizer x attempts).bind fun answer => ?_
    cases answer <;> trivial
  · split
    · trivial
    · refine (Change.onStore_apply _ x attempts).bind fun answer => ?_
      cases answer <;> trivial

/-- A stage calls for resources if it is the scaling stage, and for nothing of them otherwise. -/
theorem calls_of_mem {s : Settings} {stage : Stage Work} (hstage : stage ∈ Cycle.stages s)
    (c : Context) :
    (stage.execute c).Calls fun call : Call => call.isResource = (stage.name == "scaling") := by
  simp only [Cycle.stages, List.mem_cons, List.not_mem_nil, or_false] at hstage
  rcases hstage with rfl | rfl | rfl | rfl | rfl | rfl
  · exact calls_fetch
  · exact calls_finalizer s.attempts
  · exact calls_auth
  · exact calls_period s.steady s.grace
  · exact calls_scaling
  · exact calls_status s.attempts s.steady

end Stages

/-- An exchange is for resources if the scaling stage made it, and not otherwise. -/
theorem Chain.isResource_of_byStage {s : Settings} {chain : Chain Work}
    (hchain : ∀ stage ∈ chain, stage ∈ Cycle.stages s) {c : Context} {t : σ} {name : String}
    {e : collaborators.Exchange} (he : (name, e) ∈ chain.byStage h c t) :
    Call.isResource e.call = (name == "scaling") := by
  induction chain generalizing c t with
  | nil => exact absurd he List.not_mem_nil
  | cons stage rest ih =>
    obtain ⟨hstage, hrest⟩ := List.forall_mem_cons.mp hchain
    rw [byStage, List.mem_append] at he
    rcases he with he | he
    · obtain ⟨e', he', heq⟩ := List.mem_map.mp he
      obtain ⟨rfl, rfl⟩ := Prod.mk.inj heq
      exact (Stages.calls_of_mem hstage c).plays (Program.plays_run _ t) e' he'
    · rcases hrun : (stage.execute c).run h t with ⟨e | ⟨next⟩ | ⟨last⟩, t'⟩
      · rw [hrun] at he
        exact absurd he List.not_mem_nil
      · rw [hrun] at he
        exact ih hrest he
      · rw [hrun] at he
        exact absurd he List.not_mem_nil

/-! ## Refusals outside the scaling stage -/

/-- Attempts of which a call was refused end with that. -/
theorem Change.Tries.cancelled {c : Change} {key : Key} {x : Scaler}
    {l : List collaborators.Exchange} {answer : Except Cause Scaler}
    (h : c.Tries key x l answer) {e : collaborators.Exchange} (he : e ∈ l)
    (hrefused : e.IsRefused) :
    answer = .error .cancelled := by
  have hwrite : ∀ copy a, (c.exchange copy a).IsRefused → a = .error .cancelled := by
    intro copy a ha
    cases c <;> exact ha
  have hconflict : ∀ copy cause, cause.isConflict = true →
      ¬ (c.exchange copy (.error cause)).IsRefused := by
    intro copy cause hcause ha
    obtain rfl := Except.error.inj (hwrite copy _ ha)
    cases hcause
  induction h with
  | satisfied h => exact absurd he List.not_mem_nil
  | written h =>
    rw [List.mem_singleton.mp he] at hrefused
    cases hwrite _ _ hrefused
  | refused h =>
    rw [List.mem_singleton.mp he] at hrefused
    exact hwrite _ _ hrefused
  | unread h hcause =>
    rcases List.mem_cons.mp he with rfl | he
    · exact absurd hrefused (hconflict _ _ hcause)
    · rw [List.mem_singleton.mp he] at hrefused
      obtain rfl := Except.error.inj hrefused
      rfl
  | gone h hcause =>
    rcases List.mem_cons.mp he with rfl | he
    · exact absurd hrefused (hconflict _ _ hcause)
    · rw [List.mem_singleton.mp he] at hrefused
      cases hrefused
  | again h hcause hrest ih =>
    rcases List.mem_cons.mp he with rfl | he
    · exact absurd hrefused (hconflict _ _ hcause)
    · rcases List.mem_cons.mp he with rfl | he
      · cases hrefused
      · exact ih he

namespace Cycle

variable {s : Settings} {key : Key} {now : Instant} {l : List collaborators.Exchange}
  {result : Except CycleError Outcome} {x : Scaler} {e : collaborators.Exchange}
  (he : e ∈ l) (hrefused : e.IsRefused) (houtside : Call.isResource e.call = false)

/-- No call of a pass over the resources is made elsewhere. -/
theorem not_mem_pass {access : Access} {selection : Selection} {namespaceName : String}
    {target : Target} {report : Report} (houtside : Call.isResource e.call = false)
    (hpass : (setAll access selection namespaceName target).Plays l report) : e ∉ l := by
  intro he
  have hresource := (onResources_setAll _ _ _ _).plays hpass e he
  rw [houtside] at hresource
  cases hresource

include he hrefused houtside

theorem Serves.cancelled (h : Serves s key now x l result) :
    result = .error (.recoverable .cancelled) := by
  have hanswered : ∀ access : Access, e ≠ ⟨.connect x, .ok access⟩ := by
    rintro access rfl
    cases hrefused
  cases h with
  | unconnected =>
    rw [List.mem_singleton.mp he] at hrefused
    obtain rfl := Except.error.inj hrefused
    rfl
  | undecided _ => exact absurd (List.mem_singleton.mp he) (hanswered _)
  | waits _ _ => exact absurd (List.mem_singleton.mp he) (hanswered _)
  | overlong _ _ => exact absurd (List.mem_singleton.mp he) (hanswered _)
  | idle _ _ => exact absurd (List.mem_singleton.mp he) (hanswered _)
  | recorded _ _ hpass hrecord =>
    rcases List.mem_cons.mp he with he | he
    · exact absurd he (hanswered _)
    · rcases List.mem_append.mp he with he | he
      · exact absurd he (not_mem_pass houtside hpass)
      · cases hrecord.cancelled he hrefused
  | unrecorded _ _ hpass hrecord =>
    rcases List.mem_cons.mp he with he | he
    · exact absurd he (hanswered _)
    · rcases List.mem_append.mp he with he | he
      · exact absurd he (not_mem_pass houtside hpass)
      · obtain rfl := Except.error.inj (hrecord.cancelled he hrefused)
        rfl

omit he in
theorem Restored.not_mem {front : List collaborators.Exchange} {period : Option Period}
    {report : Report} (h : Restored key now x front period report) : e ∉ front := by
  intro he
  cases h with
  | none _ => exact absurd he List.not_mem_nil
  | pass _ _ hpass =>
    rcases List.mem_cons.mp he with rfl | he
    · cases hrefused
    · exact not_mem_pass houtside hpass he

theorem Departs.cancelled (h : Departs key now x l result) :
    result = .error (.recoverable .cancelled) := by
  cases h with
  | unconnected _ =>
    rw [List.mem_singleton.mp he] at hrefused
    obtain rfl := Except.error.inj hrefused
    rfl
  | undecided _ _ =>
    rw [List.mem_singleton.mp he] at hrefused
    cases hrefused
  | released hfront hrelease =>
    rcases List.mem_append.mp he with he | he
    · exact absurd he (hfront.not_mem hrefused houtside)
    · cases hrelease.cancelled he hrefused
  | kept hfront hrelease =>
    rcases List.mem_append.mp he with he | he
    · exact absurd he (hfront.not_mem hrefused houtside)
    · obtain rfl := Except.error.inj (hrelease.cancelled he hrefused)
      rfl

/-- **A refusal outside the scaling stage ends the cycle**, to be tried again soon. -/
theorem Goes.cancelled (h : Goes s key now l result) :
    result = .error (.recoverable .cancelled) := by
  have hanswered : ∀ found : Option Scaler, e ≠ ⟨.fetch key, .ok found⟩ := by
    rintro found rfl
    cases hrefused
  cases h with
  | unread =>
    rw [List.mem_singleton.mp he] at hrefused
    obtain rfl := Except.error.inj hrefused
    rfl
  | missing => exact absurd (List.mem_singleton.mp he) (hanswered _)
  | ignored _ _ => exact absurd (List.mem_singleton.mp he) (hanswered _)
  | departed _ _ hdeparts =>
    rcases List.mem_cons.mp he with he | he
    · exact absurd he (hanswered _)
    · exact hdeparts.cancelled he hrefused houtside
  | unmarked _ htries =>
    rcases List.mem_cons.mp he with he | he
    · exact absurd he (hanswered _)
    · obtain rfl := Except.error.inj (htries.cancelled he hrefused)
      rfl
  | served _ htries hserves =>
    rcases List.mem_cons.mp he with he | he
    · exact absurd he (hanswered _)
    · rcases List.mem_append.mp he with he | he
      · cases htries.cancelled he hrefused
      · exact hserves.cancelled he hrefused houtside

end Cycle

/-! ## Every cycle -/

/-- The exchanges of a cycle by stage are all that it exchanges. -/
theorem Cycle.map_snd_byStage_stages (s : Settings) (key : Key) (now : Instant) (t : σ) :
    ((Cycle.stages s).byStage h (.start key now) t).map Prod.snd =
      (Cycle.reconcile s key now).transcript h t := by
  rw [Chain.map_snd_byStage, Cycle.reconcile, Program.bind_eq, Program.transcript_bind]
  exact (List.append_nil _).symm

/-- **A cancellation is honoured everywhere**: under a token that fires before the call of any
number, a cycle starts the calls before that one and no other, with the answers that they would get
anyway; what is behind the calls stays as these leave it; all that is asked later is refused; and if
that happens outside the scaling stage, the cycle fails and is tried again soon. -/
theorem cancelled_before (h : Handler collaborators σ) (s : Settings) (key : Key) (now : Instant)
    (n : Nat) (t : σ) :
    ((Cycle.reconcile s key now).run (Token.watch h.noting) (.before n, [], t)).2.2 =
      (((Cycle.reconcile s key now).transcript h t).take n,
        (Cycle.reconcile s key now).stateAfter h n t) ∧
    (∀ e ∈ ((Cycle.reconcile s key now).transcript (Token.watch h.noting)
        (.before n, [], t)).drop n, e.IsRefused) ∧
    ∀ name e, (name, e) ∈ ((Cycle.stages s).byStage (Token.watch h.noting) (.start key now)
        (.before n, [], t)).drop n → name ≠ "scaling" →
      ((Cycle.reconcile s key now).run (Token.watch h.noting) (.before n, [], t)).1 =
        .error (.recoverable .cancelled) := by
  have hrefused := Program.refused_after h.noting n (Cycle.reconcile s key now) ([], t)
  refine ⟨?_, hrefused, fun name e he hname => ?_⟩
  · rw [Program.started_before, List.nil_append]
  · have hlater := List.mem_map_of_mem (f := Prod.snd) he
    rw [List.map_drop, Cycle.map_snd_byStage_stages] at hlater
    have hresource := Chain.isResource_of_byStage (fun _ hstage => hstage) (List.mem_of_mem_drop he)
    rw [beq_false_of_ne hname] at hresource
    exact (Cycle.goes_run _ s key now _).cancelled (List.mem_of_mem_drop hlater)
      (hrefused e hlater) hresource

/-! ## A cancelled morning -/

/-- A world with a Scaler without periods, and a deployment that was scaled down from three
replicas. -/
def morningShift : World :=
  { World.empty (.leadsTo .kubernetes) with
    store := (Memory.Store.empty.insert (.plain "default" "nightly")).2
    workloads :=
      { Memory.Workloads.empty with
        entries := [(⟨.deployment, "default", "api", 0, [(Scaler.replicasAnnotation, "3")]⟩, [])] } }

/-- A cancellation before the deployment is scaled: the call is refused, and so is the write of the
status after it, which ends the cycle. The deployment and the status are as they were. -/
theorem morningShift_cancelled : ∃ scale write,
    ((Cycle.stages .standard).byStage (Token.watch (Handler.noting World.answer))
        (.start ⟨"default", "nightly"⟩ (Instant.ofHour 19877 10))
        (.before 4, [], morningShift)).drop 4 = [("scaling", scale), ("status", write)] ∧
    scale.IsRefused ∧ write.IsRefused ∧
    ((Cycle.reconcile .standard ⟨"default", "nightly"⟩ (Instant.ofHour 19877 10)).run
      (Token.watch (Handler.noting World.answer)) (.before 4, [], morningShift)).1 =
        .error (.recoverable .cancelled) ∧
    ((Cycle.reconcile .standard ⟨"default", "nightly"⟩ (Instant.ofHour 19877 10)).run
      (Token.watch (Handler.noting World.answer))
        (.before 4, [], morningShift)).2.2.2.workloads.entries = morningShift.workloads.entries ∧
    (((Cycle.reconcile .standard ⟨"default", "nightly"⟩ (Instant.ofHour 19877 10)).run
      (Token.watch (Handler.noting World.answer))
        (.before 4, [], morningShift)).2.2.2.store.stored ⟨"default", "nightly"⟩).map
          Scaler.status = some none := by
  obtain ⟨-, hrefused, hends⟩ := cancelled_before World.answer .standard ⟨"default", "nightly"⟩
    (Instant.ofHour 19877 10) 4 morningShift
  have hnames : (((Cycle.stages .standard).byStage (Token.watch (Handler.noting World.answer))
      (.start ⟨"default", "nightly"⟩ (Instant.ofHour 19877 10))
      (.before 4, [], morningShift)).drop 4).map Prod.fst = ["scaling", "status"] := by
    decide +kernel
  obtain ⟨⟨_, scale⟩, rest, hrest, rfl, htail⟩ := List.map_eq_cons_iff.mp hnames
  obtain ⟨⟨_, write⟩, others, rfl, rfl, hnone⟩ := List.map_eq_cons_iff.mp htail
  obtain rfl := List.map_eq_nil_iff.mp hnone
  have hlater := congrArg (List.map Prod.snd) hrest
  rw [List.map_drop, Cycle.map_snd_byStage_stages] at hlater
  rw [hlater] at hrefused
  rw [hrest] at hends
  refine ⟨scale, write, hrest, hrefused _ List.mem_cons_self,
    hrefused _ (List.mem_cons_of_mem _ List.mem_cons_self),
    hends _ _ (List.mem_cons_of_mem _ List.mem_cons_self) (by decide), ?_, ?_⟩
  · decide +kernel
  · decide +kernel

end PeriodScaler
