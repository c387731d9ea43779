import PeriodScaler.Proofs.Answers
import PeriodScaler.Proofs.Cycle.Course
import PeriodScaler.Proofs.Cycle.Writes
import PeriodScaler.Proofs.Scaling.Passes

/-!
# How a Scaler goes away

A Scaler that is being deleted and has its marker is always on its way out: whatever periods it has
and whatever was recorded, the only period that counts for it is the default one, which restores,
and that one always resolves. If the resources are to be restored, one pass over all kinds comes
before the marker is released; if not, no provider is contacted. Nothing of it is recorded, and as
long as the marker was not released, it is still there.

* **`plays_leave`**: what is exchanged on the way out, and with what outcome it ends.
* **`period_goesOn`**: the period stage never ends the cycle of such a Scaler.
* **`deletion_protocol`**: the whole protocol, whatever happens in between.
-/

namespace PeriodScaler

open Memory (World Store)

/-! ## The period -/

section Period

variable {now : Instant}

/-- On request, the default period resolves at every inner instant, and restores. -/
theorem resolve_requested_ok (hnow : now.isInner) (ds : List Declaration)
    (previous : Option PassRecord) :
    ∃ r, resolve ds previous true now = .ok r ∧ r.period.target = .restore := by
  obtain ⟨w, hw, -⟩ := Declaration.defaultRestore_window hnow
  have hchoice : choice ds true now = .ok (Declaration.defaultRestore.period w) := by
    rw [choice_requested, evaluate_ok hw]
  have hfresh : ¬ (Declaration.defaultRestore.period w).HasRun previous := fun h =>
    Bool.false_ne_true h.1
  exact ⟨_, resolve_of_not_hasRun hchoice hfresh, rfl⟩

/-- **The period stage never ends the cycle** of a Scaler that goes away: it is passed over, or the
default period resolves. -/
theorem period_goesOn (hnow : now.isInner) {c : Context} {x : Scaler} (hx : c.scaler = some x)
    (hfinalizing : c.finalizing = true) (hc : c.now = now)
    (haccess : x.spec.restoreOnDelete = true → c.access.isSome = true) (steady grace : Span) :
    ∃ next, (Stages.period steady grace).execute c = Stages.goOn next := by
  have hrequested : c.restoreRequested = x.spec.restoreOnDelete := by
    simp [Context.restoreRequested, hx, hfinalizing]
  cases hrestore : x.spec.restoreOnDelete with
  | false =>
    have hleaves : c.leavesResources = true := by
      simp [Context.leavesResources, hrequested, hrestore, hfinalizing]
    exact ⟨c, by simp only [Stages.period, hleaves, if_true]⟩
  | true =>
    have hstays : c.leavesResources = false := by
      simp [Context.leavesResources, hrequested, hrestore]
    have hnone : c.access.isNone = false := by
      rw [← Option.not_isSome, haccess hrestore]
      rfl
    obtain ⟨r, hr, -⟩ := resolve_requested_ok hnow x.spec.periods x.currentPeriod
    have hidle : r.isIdle = false := (resolve_requested hr).2
    refine ⟨{ c with selection := some x.spec.selection, resolution := some r }, ?_⟩
    simp only [Stages.period, hstays, hnone, Bool.false_eq_true, if_false,
      Stages.withScaler_eq hx, hrequested, hrestore, hc, hr, hidle]

end Period

/-! ## The way out -/

section Leave

variable {settings : Settings} {key : Key} {now : Instant} {x : Scaler}
  {l : List collaborators.Exchange} {result : Except CycleError Outcome}

/-- The end of the way out: only the finalizers are written, and there is no delay to ask for. -/
theorem plays_release {period : Option Period} {report : Report}
    (h : (Cycle.release settings x period report).Plays l result) :
    (∀ e ∈ l, e.call.isFinalizing = true) ∧
      ∀ o, result = .ok o → o.stoppedBy = some "status" ∧ o.requeue = none := by
  obtain ⟨l₁, answer, l₂, rfl, happly, hend⟩ := Program.plays_bind_iff.mp h
  have hcalls := (Change.removeFinalizer.calls_apply (Q := fun c => c.isFinalizing = true)
    (fun _ => rfl) (fun _ => rfl) x settings.attempts).plays happly
  cases answer with
  | error e =>
    obtain ⟨rfl, rfl⟩ := Program.plays_done_iff.mp hend
    rw [List.append_nil]
    refine ⟨hcalls, ?_⟩
    rintro o ⟨⟩
  | ok y =>
    obtain ⟨rfl, rfl⟩ := Program.plays_done_iff.mp hend
    rw [List.append_nil]
    refine ⟨hcalls, ?_⟩
    rintro o ⟨⟩
    exact ⟨rfl, rfl⟩

/-- What is exchanged on the way out when resources are to be restored: without a connection nothing
else is done, and else one pass over all kinds comes first. -/
inductive Restores (key : Key) (x : Scaler) : List collaborators.Exchange → Prop where
  | unconnected {e} : Restores key x [⟨.connect x, .error e⟩]
  | restored {access pass report rest}
    (hpass : Passes access x.spec.selection key.namespaceName .restore x.spec.selection.types pass
      report)
    (hresources : ∀ e ∈ pass, e.call.isResource = true)
    (hrest : ∀ e ∈ rest, e.call.isFinalizing = true) :
    Restores key x (⟨.connect x, .ok access⟩ :: (pass ++ rest))

theorem Restores.not_recording (h : Restores key x l) : ∀ e ∈ l, e.call.isRecording = false := by
  cases h with
  | unconnected =>
    intro e he
    rw [List.mem_singleton.mp he]
    rfl
  | restored hpass hresources hrest =>
    intro e he
    rcases List.mem_cons.mp he with rfl | he
    · rfl
    · rcases List.mem_append.mp he with he | he
      · exact Call.not_recording_of_resource (hresources e he)
      · exact Call.not_recording_of_finalizing (hrest e he)

/-- **What is exchanged on the way out**, and with what outcome it ends. -/
theorem plays_leave (hnow : now.isInner) (h : (Cycle.leave settings key now x).Plays l result) :
    (x.spec.restoreOnDelete = false → ∀ e ∈ l, e.call.isFinalizing = true) ∧
    (x.spec.restoreOnDelete = true → Restores key x l) ∧
    (∀ o, result = .ok o → o.stoppedBy = some "status" ∧ o.requeue = none) := by
  unfold Cycle.leave at h
  cases hrestore : x.spec.restoreOnDelete with
  | false =>
    rw [hrestore, if_neg Bool.false_ne_true] at h
    obtain ⟨hcalls, hend⟩ := plays_release h
    exact ⟨fun _ => hcalls, nofun, hend⟩
  | true =>
    rw [hrestore, if_pos rfl] at h
    obtain ⟨answer, rest, rfl, hanswer⟩ := Program.plays_ask_iff.mp h
    refine ⟨nofun, ?_⟩
    cases answer with
    | error e =>
      obtain ⟨rfl, rfl⟩ := Program.plays_done_iff.mp hanswer
      refine ⟨fun _ => .unconnected, ?_⟩
      rintro o ⟨⟩
    | ok access =>
      obtain ⟨r, hr, htarget⟩ := resolve_requested_ok hnow x.spec.periods x.currentPeriod
      simp only [hr, htarget] at hanswer
      obtain ⟨pass, report, after, rfl, hpass, hafter⟩ := Program.plays_bind_iff.mp hanswer
      obtain ⟨hcalls, hend⟩ := plays_release hafter
      exact ⟨fun _ => .restored (passes_setAll hpass) ((onResources_setAll _ _ _ _).plays hpass)
        hcalls, hend⟩

/-- What the release of the marker ensures, the way out does. -/
theorem ensures_leave (key : Key) (now : Instant) {σ : Type} {h : Handler collaborators σ}
    {known : σ → Prop} {post : Except Cause Scaler → σ → Prop}
    (hcalls : ∀ {α : Type} {p : Work α}, (p.Calls fun c : Call => c.writes = false) →
      p.Ensures h known fun _ => known)
    (hfail : ∀ e s, known s → post (.error e) s)
    (hrelease : (Change.removeFinalizer.apply x settings.attempts).Ensures h known post) :
    (Cycle.leave settings key now x).Ensures h known fun result s =>
      (∀ o, result = .ok o → ∃ y, post (.ok y) s) ∧
      ∀ e, result = .error e → ∃ e, post (.error e) s := by
  have hfails : ∀ e : CycleError, Program.Ensures h known
      (.done (.error e) : Work (Except CycleError Outcome)) fun result s =>
        (∀ o, result = .ok o → ∃ y, post (.ok y) s) ∧
        ∀ e, result = .error e → ∃ e, post (.error e) s := by
    intro e
    refine Program.Ensures.done fun s hs => ⟨?_, fun _ _ => ⟨e.cause, hfail _ s hs⟩⟩
    rintro o ⟨⟩
  have hend : ∀ period report, (Cycle.release settings x period report).Ensures h known
      fun result s => (∀ o, result = .ok o → ∃ y, post (.ok y) s) ∧
        ∀ e, result = .error e → ∃ e, post (.error e) s := by
    intro period report
    refine Program.Ensures.bind hrelease fun answer => ?_
    cases answer with
    | ok y =>
      refine Program.Ensures.done fun s hs => ⟨fun _ _ => ⟨y, hs⟩, ?_⟩
      rintro e ⟨⟩
    | error e =>
      refine Program.Ensures.done fun s hs => ⟨?_, fun _ _ => ⟨e, hs⟩⟩
      rintro o ⟨⟩
  unfold Cycle.leave
  by_cases hrestore : x.spec.restoreOnDelete = true
  · rw [if_pos hrestore]
    have hconnect : (Program.call (I := collaborators) (.connect x)).Ensures h known
        fun _ => known := hcalls ⟨rfl, fun _ => trivial⟩
    refine Program.Ensures.ask (fun _ => known) hconnect fun answer => ?_
    cases answer with
    | error e => exact hfails _
    | ok access =>
      simp only
      cases resolve x.spec.periods x.currentPeriod true now with
      | error e => exact hfails _
      | ok r =>
        have hpass := (onResources_setAll access x.spec.selection key.namespaceName
          r.period.target).mono fun _ => Call.writes_of_isResource
        exact (hcalls hpass).bind fun report => hend _ report
  · rw [if_neg hrestore]
    exact hend _ _

/-- The way out, whatever others do: the marker is gone when it succeeds. -/
theorem ensures_leave_unmarked {i : Interference World} (hi : i.KeepsKey key) (hkey : x.key = key)
    (hmarked : x.isMarked = true) :
    (Cycle.leave settings key now x).Ensures (i.around World.answer)
      (fun s => IsOf key (heldUnder key s))
      fun result s => ∀ o, result = .ok o → ∀ y, heldUnder key s = some y → y.isMarked = false := by
  intro s hs o ho
  have hleave := ensures_leave key now (calls_hold hi)
    (fun _ _ _ _ h => nomatch h)
    (Change.ensures_unmarked hi hkey hmarked settings.attempts) s hs
  obtain ⟨y, hy⟩ := hleave.1 o ho
  exact hy y rfl

/-- The way out when nobody touches the finalizers: those of others are left when it succeeds. -/
theorem ensures_leave_others {i : Interference World}
    (hi : i.Preserves key (Change.AwaitsAll key x.finalizers)) (hkey : x.key = key)
    (hmarked : x.isMarked = true) :
    (Cycle.leave settings key now x).Ensures (i.around World.answer)
      (fun s => Change.AwaitsAll key x.finalizers (heldUnder key s))
      fun result s => ∀ o, result = .ok o →
        (heldUnder key s).map Scaler.marks =
          Change.remaining (x.finalizers.filter fun f => f != Scaler.finalizer) := by
  intro s hs o ho
  have hleave := ensures_leave key now (calls_hold hi)
    (fun _ _ _ _ h => nomatch h)
    (Change.ensures_others hi hkey hmarked settings.attempts) s hs
  obtain ⟨y, hy⟩ := hleave.1 o ho
  exact hy y rfl

/-- The way out when nobody else writes: the marker is taken off when it succeeds, and nothing has
changed when it fails. -/
theorem ensures_leave_alone {i : Interference World} (hi : i.Leaves key) (hkey : x.key = key)
    (hmarked : x.isMarked = true) :
    (Cycle.leave settings key now x).Ensures (i.around World.answer)
      (fun s => heldUnder key s = some x) fun result s =>
        (∀ o, result = .ok o → ∃ n, heldUnder key s =
          Store.remains (Store.withVersion n
            (x.withFinalizers (x.finalizers.filter fun f => f != Scaler.finalizer)))) ∧
        ∀ e, result = .error e → heldUnder key s = some x := by
  intro s hs
  have hleave := ensures_leave key now
    (calls_hold (P := fun held => held = some x) (hi.preserves _))
    (fun e t ht => Change.EndsAlone.of_eq ht)
    (Change.ensures_alone hi .removeFinalizer hkey settings.attempts) s hs
  refine ⟨fun o ho => ?_, fun e he => ?_⟩
  · obtain ⟨y, hy⟩ := hleave.1 o ho
    generalize heldUnder key _ = held at hy ⊢
    cases hy with
    | satisfied hsatisfied =>
      rw [Change.isSatisfied, hmarked] at hsatisfied
      cases hsatisfied
    | committed hmissing => exact ⟨_, rfl⟩
  · obtain ⟨e', he'⟩ := hleave.2 e he
    generalize heldUnder key _ = held at he' ⊢
    cases he' with
    | failed => rfl

end Leave

/-! ## The protocol -/

section Protocol

variable {settings : Settings} {key : Key} {now : Instant} {x : Scaler} {i : Interference World}
  {s : Nat × World}

/-- The cycle of a Scaler that goes away fails at once, or takes the way out. -/
theorem run_leaving (settings : Settings) (now : Instant)
    (hx : (i.change s.1 s.2).store.stored key = some x)
    (hdeleting : x.isDeleting = true) (hmarked : x.isMarked = true) :
    (∃ e, Cycle.runUnder i settings key now s =
        (.error (.recoverable e), s.1 + 1, i.change s.1 s.2) ∧
      Cycle.exchangesUnder i settings key now s = [⟨.fetch key, .error e⟩]) ∨
    (Cycle.runUnder i settings key now s =
        (Cycle.leave settings key now x).run (i.around World.answer) (s.1 + 1, i.change s.1 s.2) ∧
      Cycle.exchangesUnder i settings key now s = ⟨.fetch key, .ok (some x)⟩ ::
        (Cycle.leave settings key now x).transcript (i.around World.answer)
          (s.1 + 1, i.change s.1 s.2)) := by
  rw [← Cycle.attend_leaving hdeleting hmarked]
  rcases fetch_cases hx with ⟨e, hfetch⟩ | hfetch
  · exact Or.inl ⟨e, Cycle.run_of_unread hfetch, Cycle.transcript_of_unread hfetch⟩
  · exact Or.inr ⟨Cycle.run_of_found hfetch, Cycle.transcript_of_found hfetch⟩

/-- What the connection hands on for a Scaler that goes away. -/
theorem plays_connection {l : List collaborators.Exchange} {c : Context}
    (h : (Chain.execute [Stages.auth] (Cycle.met key now x true)).Plays l (.ok ⟨c, none⟩)) :
    c.scaler = some x ∧ c.finalizing = true ∧ c.now = now ∧
      (x.spec.restoreOnDelete = true → c.access.isSome = true) := by
  have hleaves : (Cycle.met key now x true).leavesResources = !x.spec.restoreOnDelete := by
    simp [Context.leavesResources, Context.restoreRequested, Cycle.met]
  obtain ⟨l₁, flow, l₂, rfl, hauth, hrest⟩ := Program.plays_bind_iff.mp h
  simp only [Stages.auth, hleaves] at hauth
  cases hrestore : x.spec.restoreOnDelete with
  | false =>
    simp only [hrestore, Bool.not_false, if_true] at hauth
    obtain ⟨-, rfl⟩ := Program.plays_done_iff.mp hauth
    obtain ⟨-, hend⟩ := Program.plays_done_iff.mp hrest
    cases hend
    exact ⟨rfl, rfl, rfl, fun h => absurd h Bool.false_ne_true⟩
  | true =>
    simp only [hrestore, Bool.not_true, Bool.false_eq_true, if_false] at hauth
    obtain ⟨answer, l, rfl, hanswer⟩ := Program.plays_ask_iff.mp hauth
    cases answer with
    | error e =>
      obtain ⟨-, rfl⟩ := Program.plays_done_iff.mp hanswer
      obtain ⟨-, hend⟩ := Program.plays_done_iff.mp hrest
      cases hend
    | ok access =>
      obtain ⟨-, rfl⟩ := Program.plays_done_iff.mp hanswer
      obtain ⟨-, hend⟩ := Program.plays_done_iff.mp hrest
      cases hend
      exact ⟨rfl, rfl, rfl, fun _ => rfl⟩

/-- **After the connection, the period stage goes on.** -/
theorem goesOn_after_connection (hnow : now.isInner)
    (hx : (i.change s.1 s.2).store.stored key = some x) (hdeleting : x.isDeleting = true)
    (hmarked : x.isMarked = true) {c : Context}
    (hc : ((Chain.execute ((Cycle.stages settings).take 3) (.start key now)).run
      (i.around World.answer) s).1 = .ok ⟨c, none⟩) (steady grace : Span) :
    ∃ next, (Stages.period steady grace).execute c = Stages.goOn next := by
  rcases fetch_cases hx with ⟨e, hfetch⟩ | hfetch
  · have hrun := (congrArg Prod.fst (Cycle.run_execute_of_unread hfetch now _)).symm.trans hc
    cases hrun
  · have hrun := (congrArg Prod.fst (Cycle.run_execute_of_found hfetch now
      [Stages.finalizer settings.attempts, Stages.auth])).symm.trans hc
    have hfinalizer : Chain.execute [Stages.finalizer settings.attempts, Stages.auth]
        (Cycle.met key now x false) = Chain.execute [Stages.auth] (Cycle.met key now x true) := by
      rw [Chain.execute]
      simp only [Stages.finalizer,
        Stages.withScaler_eq (c := Cycle.met key now x false) (x := x) rfl, hdeleting, hmarked,
        if_true]
      rfl
    rw [hfinalizer] at hrun
    have hplays := Program.plays_run (h := i.around World.answer)
      (Chain.execute [Stages.auth] (Cycle.met key now x true)) (s.1 + 1, i.change s.1 s.2)
    rw [hrun] at hplays
    obtain ⟨hscaler, hfinalizing, hstill, haccess⟩ := plays_connection hplays
    exact period_goesOn hnow hscaler hfinalizing hstill haccess steady grace

/-- **The deletion protocol**, for a Scaler that is being deleted and has its marker, whatever
happens in between. The period stage goes on. Without a restore nothing but the Scaler is read and
written; with one, a failed read or connection ends the cycle, and else one pass over all kinds
restores what it can. A cycle that succeeds was stopped by its last stage, asks for no other one and
records nothing; the marker is off, the finalizers of others are left if nobody else touched them,
and the Scaler is as it was otherwise if nobody else wrote it. A cycle that fails leaves it as it
was. -/
theorem deletion_protocol (hnow : now.isInner)
    (hx : (i.change s.1 s.2).store.stored key = some x) (hkey : x.key = key)
    (hdeleting : x.isDeleting = true) (hmarked : x.isMarked = true) :
    (∀ c, ((Chain.execute ((Cycle.stages settings).take 3) (.start key now)).run
        (i.around World.answer) s).1 = .ok ⟨c, none⟩ →
      ∃ next, (Stages.period settings.steady settings.grace).execute c = Stages.goOn next) ∧
    (x.spec.restoreOnDelete = false →
      ∀ e ∈ Cycle.exchangesUnder i settings key now s, e.call.isFinalizing = true) ∧
    (x.spec.restoreOnDelete = true →
      (∃ e, Cycle.exchangesUnder i settings key now s = [⟨.fetch key, .error e⟩]) ∨
      ∃ rest, Cycle.exchangesUnder i settings key now s = ⟨.fetch key, .ok (some x)⟩ :: rest ∧
        Restores key x rest) ∧
    (∀ o, (Cycle.runUnder i settings key now s).1 = .ok o →
      o.stoppedBy = some "status" ∧ o.requeue = none ∧
      (∀ e ∈ Cycle.exchangesUnder i settings key now s, e.call.isRecording = false) ∧
      (i.KeepsKey key → ∀ y, heldUnder key (Cycle.runUnder i settings key now s).2 = some y →
        y.isMarked = false) ∧
      (i.KeepsKey key → i.KeepsMarks key →
        (heldUnder key (Cycle.runUnder i settings key now s).2).map Scaler.marks =
          Change.remaining (x.finalizers.filter fun f => f != Scaler.finalizer)) ∧
      (i.Leaves key → ∃ n, heldUnder key (Cycle.runUnder i settings key now s).2 =
        Store.remains (Store.withVersion n
          (x.withFinalizers (x.finalizers.filter fun f => f != Scaler.finalizer))))) ∧
    ∀ e, (Cycle.runUnder i settings key now s).1 = .error e → i.Leaves key →
      heldUnder key (Cycle.runUnder i settings key now s).2 = some x := by
  refine ⟨fun c hc => goesOn_after_connection hnow hx hdeleting hmarked hc _ _, ?_⟩
  have hheld : heldUnder key (s.1 + 1, i.change s.1 s.2) = some x := hx
  have hof : IsOf key (heldUnder key (s.1 + 1, i.change s.1 s.2)) := by
    intro y hy
    obtain rfl := Option.some.inj (hheld.symm.trans hy)
    exact hkey
  rcases run_leaving settings now hx hdeleting hmarked with
    ⟨e, hrun, hexchanges⟩ | ⟨hrun, hexchanges⟩
  · rw [hrun, hexchanges]
    refine ⟨fun _ e he => ?_, fun _ => Or.inl ⟨e, rfl⟩, fun o ho => ?_, fun _ _ _ => hheld⟩
    · rw [List.mem_singleton.mp he]
      rfl
    · cases ho
  · rw [hrun, hexchanges]
    have hplays := Program.plays_run (h := i.around World.answer)
      (Cycle.leave settings key now x) (s.1 + 1, i.change s.1 s.2)
    obtain ⟨hleaves, hrestores, hend⟩ := plays_leave hnow hplays
    refine ⟨fun hrestore => ?_, fun hrestore => Or.inr ⟨_, rfl, hrestores hrestore⟩, ?_, ?_⟩
    · rw [List.forall_mem_cons]
      exact ⟨rfl, hleaves hrestore⟩
    · intro o ho
      obtain ⟨hstopped, hrequeue⟩ := hend o ho
      refine ⟨hstopped, hrequeue, ?_, fun hkeys => ?_, fun hkeys hmarks => ?_, fun hothers => ?_⟩
      · rw [List.forall_mem_cons]
        refine ⟨rfl, ?_⟩
        cases hrestore : x.spec.restoreOnDelete with
        | false => exact fun e he => Call.not_recording_of_finalizing (hleaves hrestore e he)
        | true => exact (hrestores hrestore).not_recording
      · exact ensures_leave_unmarked hkeys hkey hmarked _ hof o ho
      · have hpreserves : i.Preserves key (Change.AwaitsAll key x.finalizers) :=
          fun n w hw => ⟨hkeys n w hw.1, (hmarks n w).trans hw.2⟩
        refine ensures_leave_others hpreserves hkey hmarked _ ⟨hof, ?_⟩ o ho
        rw [hheld, Option.map_some, Scaler.marks, hdeleting]
      · exact (ensures_leave_alone hothers hkey hmarked _ hheld).1 o ho
    · intro e he hothers
      exact (ensures_leave_alone hothers hkey hmarked _ hheld).2 e he

end Protocol

/-! ## A Scaler that goes away -/

/-- A Scaler that is being deleted, for which two kinds of cleanup are owed. -/
def departing : Scaler :=
  let plain := Scaler.plain "default" "nightly"
  { plain with metadata :=
    { plain.metadata with
      deletionTime := some ⟨⟨⟨19877⟩, .midnight⟩⟩
      finalizers := some [Scaler.finalizer, "example.com/backup"] } }

/-- A world with that Scaler, and a deployment that was scaled down from three replicas. -/
def departureLounge : World :=
  { World.empty (.leadsTo .kubernetes) with
    store := (Store.empty.insert departing).2
    workloads :=
      { Memory.Workloads.empty with
        entries := [(⟨.deployment, "default", "api", 0, [(Scaler.replicasAnnotation, "3")]⟩, [])] } }

/-- The pass restores the deployment, the cycle succeeds, and one kind of cleanup is still owed. -/
theorem departing_waits : ∃ o pass report rest,
    (Cycle.runUnder .calm .standard departing.key (Instant.ofHour 19877 10)
      (0, departureLounge)).1 = .ok o ∧ o.stoppedBy = some "status" ∧
    Cycle.exchangesUnder .calm .standard departing.key (Instant.ofHour 19877 10)
        (0, departureLounge) =
      ⟨.fetch departing.key, .ok (some (Store.withVersion 1 departing))⟩ ::
        ⟨.connect (Store.withVersion 1 departing), .ok (.workloads none)⟩ :: (pass ++ rest) ∧
    (deployments.setState .restore).Plays pass (.ok report) ∧
    (∀ e ∈ rest, e.call.isFinalizing = true) ∧
    (Cycle.runUnder .calm .standard departing.key (Instant.ofHour 19877 10)
      (0, departureLounge)).2.2.workloads.entries =
        [(⟨.deployment, "default", "api", 3, []⟩, [])] ∧
    (heldUnder departing.key (Cycle.runUnder .calm .standard departing.key
      (Instant.ofHour 19877 10) (0, departureLounge)).2).map Scaler.marks =
        some (["example.com/backup"], true) := by
  have hnow : (Instant.ofHour 19877 10).isInner := by decide
  obtain ⟨o, ho⟩ : ∃ o, (Cycle.runUnder .calm .standard departing.key (Instant.ofHour 19877 10)
      (0, departureLounge)).1 = .ok o := exists_ok (by decide +kernel)
  have hheld : (Interference.calm.change 0 departureLounge).store.stored departing.key =
      some (Store.withVersion 1 departing) := by decide +kernel
  have hconnected : (Cycle.exchangesUnder .calm .standard departing.key (Instant.ofHour 19877 10)
      (0, departureLounge)).map Interface.Exchange.access? =
        [none, some (.workloads none), none, none, none] := by decide +kernel
  obtain ⟨-, -, hrestores, hend, -⟩ := @deletion_protocol .standard departing.key _ _ .calm
    (0, departureLounge) hnow hheld rfl rfl (by decide)
  obtain ⟨hstopped, -, -, -, hothers, -⟩ := hend o ho
  rcases hrestores rfl with ⟨e, hfailed⟩ | ⟨rest, hexchanges, hrest⟩
  · rw [hfailed] at hconnected
    cases hconnected
  rw [hexchanges] at hconnected ⊢
  cases hrest with
  | unconnected => cases hconnected
  | restored hpass _ hfinal =>
    obtain rfl := Option.some.inj (List.cons.inj (List.cons.inj hconnected).2).1
    obtain ⟨pass, report, rest, others, rfl, -, hplays, hnone⟩ :=
      hpass.of_workloads .deployment rfl
    cases hnone
    rw [List.append_nil]
    exact ⟨o, pass, report, _, ho, hstopped, rfl, hplays, hfinal, by decide +kernel,
      hothers (fun _ _ h => h) (fun _ _ => rfl)⟩

end PeriodScaler
