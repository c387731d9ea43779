import PeriodScaler.Proofs.Cycle.Cancellation
import PeriodScaler.Proofs.Cycle.Recording
import PeriodScaler.Proofs.Scaling.Repetition

/-!
# A cycle that is repeated

A cycle for a live Scaler leaves it with its marker and with the record of the pass. When the same
cycle runs once more and nothing else has happened, the marker is there, the period is the same one,
a pass finds every item where it is to be and reports what it reported before, and so the status to
be written is the one that is there. Nothing is written, at whichever stage the second cycle ends.

It ends early when the period asks for nothing: that was recorded, so the second cycle has no pass,
and no report. A one-shot period is left out, since its second cycle waits for the end of its
window.

* **`run_marked`**: a cycle for a Scaler with its marker, call by call.
* **`run_live_alone`**: a cycle that succeeds, up to the connection.
* **`second_cycle_rests`**: the second cycle changes nothing, and ends with the outcome of the
  first.
-/

namespace PeriodScaler

open Memory (World Store)

/-! ## What calls leave alone -/

/-- A run to which nothing happens from outside is a run. -/
theorem Program.run_calm {α σ : Type} (h : Handler collaborators σ) (p : Work α) (n : Nat) (s : σ) :
    ∃ m, p.run (Interference.calm.around h) (n, s) = ((p.run h s).1, m, (p.run h s).2) := by
  induction p generalizing n s with
  | done a => exact ⟨n, rfl⟩
  | ask c next ih => exact ih (h c s).1 (n + 1) (h c s).2

theorem Memory.Store.failingReads_write (copy : Scaler) (change : Scaler → Scaler) (s : Store) :
    (s.write copy change).2.failingReads = s.failingReads := by
  unfold write
  simp only
  split
  · rfl
  · split
    · rfl
    · split <;> rfl

namespace Memory.World

variable {α : Type} {w : World}

/-- No run changes where the connector leads, or whether reads fail. -/
theorem conditions_run (p : Work α) (w : World) :
    (p.run World.answer w).2.connector = w.connector ∧
      (p.run World.answer w).2.store.failingReads = w.store.failingReads := by
  refine Program.run_keeps (Q := fun _ => True)
    (fun s : World => s.connector = w.connector ∧ s.store.failingReads = w.store.failingReads)
    (fun c _ s hs => ?_) (fun _ _ => trivial) ⟨rfl, rfl⟩
  cases c with
  | putFinalizers copy finalizers =>
    exact ⟨hs.1, (Store.failingReads_write copy _ s.store).trans hs.2⟩
  | putStatus copy status => exact ⟨hs.1, (Store.failingReads_write copy _ s.store).trans hs.2⟩
  | fetch _ => exact hs
  | connect _ => exact hs
  | listWorkloads _ _ _ _ => exact hs
  | scaleWorkload _ _ _ _ _ _ => exact hs
  | listInstances _ _ _ _ => exact hs
  | startInstance _ _ _ _ => exact hs
  | stopInstance _ _ _ _ => exact hs

/-- A run that calls for no resource leaves both tables alone. -/
theorem tables_run {p : Work α} (hp : p.Calls fun call : Call => call.isResource = false)
    (w : World) : (p.run World.answer w).2.workloads = w.workloads ∧
      (p.run World.answer w).2.instances = w.instances := by
  have hkept : p.Ensures World.answer
      (fun s => s.workloads = w.workloads ∧ s.instances = w.instances)
      fun _ s => s.workloads = w.workloads ∧ s.instances = w.instances := by
    refine hp.ensures fun c hc s hs => ?_
    cases c <;> first | exact hs | cases hc
  exact hkept w ⟨rfl, rfl⟩

/-- A run that writes no Scaler leaves the store alone. -/
theorem store_run {p : Work α} (hp : p.Calls fun call : Call => call.writes = false) (w : World) :
    (p.run World.answer w).2.store = w.store := by
  have hkept : p.Ensures World.answer (fun s => s.store = w.store) fun _ s => s.store = w.store :=
    hp.ensures fun c hc s hs => (store_answer_of_not_writes hc s).trans hs
  exact hkept w rfl

/-- A world after one more connection. -/
def connected (w : World) : World :=
  { w with connects := w.connects + 1 }

theorem IsOrdered.connected (h : w.IsOrdered) : w.connected.IsOrdered :=
  ⟨h.workloads, h.instances⟩

/-- A connector answers as it is set to. -/
theorem answer_connect (x : Scaler) (w : World) : World.answer (.connect x) w =
    (match w.connector with
      | .leadsTo p => .ok (accessTo p)
      | .failing reason => .error (.auth reason), w.connected) := rfl

/-- A read shows what the key holds. -/
theorem answer_fetch (key : Key) (hreads : w.store.failingReads = false) :
    World.answer (.fetch key) w = (.ok (w.store.stored key), w) :=
  Prod.ext (if_neg (Bool.eq_false_iff.mp hreads)) rfl

end Memory.World

/-- What a change leaves when nothing else happens. -/
theorem Change.endsAlone_run {c : Change} {w w' : World} {x : Scaler} {attempts : Nat}
    {answer : Except Cause Scaler} (hx : w.store.stored x.key = some x)
    (h : (c.apply x attempts).run World.answer w = (answer, w')) :
    c.EndsAlone x answer (w'.store.stored x.key) := by
  obtain ⟨m, hcalm⟩ := Program.run_calm World.answer (c.apply x attempts) 0 w
  have hends := Change.ensures_alone (i := Interference.calm) (fun _ _ => rfl) c rfl attempts
    (0, w) hx
  rw [hcalm, h] at hends
  exact hends

theorem Scaler.isMarked_kept (x : Scaler) : x.kept.isMarked = true := by
  unfold kept
  split
  · assumption
  · simp [isMarked, finalizers]

theorem Scaler.spec_kept (x : Scaler) : x.kept.spec = x.spec := by
  unfold kept
  split <;> rfl

/-! ## The calls of a cycle -/

namespace Cycle

/-- A live Scaler is stored with its marker, reads do not fail, and there is a provider to connect
to. -/
structure Ready (key : Key) (x : Scaler) (provider : Provider) (w : World) : Prop where
  reads : w.store.failingReads = false
  stored : w.store.stored key = some x
  live : x.isDeleting = false
  marked : x.isMarked = true
  connector : w.connector = .leadsTo provider

/-- A cycle ends with an outcome and changes nothing: it writes no Scaler, and the store, all
workloads and all instances are as before. -/
structure Rests (settings : Settings) (key : Key) (now : Instant) (w : World) (o : Outcome)
    (w' : World) : Prop where
  run : (reconcile settings key now).run World.answer w = (.ok o, w')
  writes : ∀ e ∈ (reconcile settings key now).transcript World.answer w, Call.writes e.call = false
  store : w'.store = w.store
  workloads : w'.workloads.entries = w.workloads.entries
  instances : w'.instances.entries = w.instances.entries

variable {settings : Settings} {key : Key} {now : Instant} {x : Scaler} {o : Outcome} {p : Period}
  {w w' : World} {provider : Provider}

theorem Ready.connected (h : Ready key x provider w) : Ready key x provider w.connected :=
  ⟨h.reads, h.stored, h.live, h.marked, h.connector⟩

/-- **A cycle for a Scaler with its marker** fetches it, connects and goes on from there. -/
theorem run_ready (settings : Settings) (now : Instant) (h : Ready key x provider w) :
    (reconcile settings key now).run World.answer w =
      (serveBy settings key now x (Memory.accessTo provider)).run World.answer w.connected ∧
    (reconcile settings key now).transcript World.answer w =
      ⟨.fetch key, .ok (some x)⟩ :: ⟨.connect x, .ok (Memory.accessTo provider)⟩ ::
        (serveBy settings key now x (Memory.accessTo provider)).transcript World.answer
          w.connected := by
  have hfetch := World.answer_fetch key h.reads
  have hconnect := World.answer_connect x w
  rw [h.stored] at hfetch
  rw [h.connector] at hconnect
  have hattend : attend settings key now x = serve settings key now x := by
    rw [attend_live h.live, Change.apply_of_isSatisfied (c := .addFinalizer) h.marked]
    rfl
  rw [run_of_found hfetch, transcript_of_found hfetch, hattend]
  exact ⟨Program.run_of_answer (I := collaborators) hconnect,
    congrArg _ (Program.transcript_of_answer (I := collaborators) hconnect)⟩

/-- A cycle rests when what follows the connection does. -/
theorem rests_of_serveBy (h : Ready key x provider w)
    (hrun : (serveBy settings key now x (Memory.accessTo provider)).run World.answer w.connected =
      (.ok o, w'))
    (hcalls : ∀ e ∈ (serveBy settings key now x (Memory.accessTo provider)).transcript World.answer
      w.connected, Call.writes e.call = false)
    (hworkloads : w'.workloads.entries = w.workloads.entries)
    (hinstances : w'.instances.entries = w.instances.entries) : Rests settings key now w o w' := by
  obtain ⟨hcycle, htranscript⟩ := run_ready settings now h
  refine ⟨hcycle.trans hrun, ?_, ?_, hworkloads, hinstances⟩
  · rw [htranscript]
    exact List.forall_mem_cons.mpr ⟨rfl, List.forall_mem_cons.mpr ⟨rfl, hcalls⟩⟩
  · have hstore := Program.run_keeps (I := collaborators) (h := World.answer) (s := w.connected)
      (Q := fun c : Call => c.writes = false) (fun s : World => s.store = w.store)
      (fun c hc s hs => (store_answer_of_not_writes hc s).trans hs) hcalls rfl
    rwa [hrun] at hstore

/-- **A cycle that succeeds** has put the marker on the Scaler, and goes on from the connection. -/
theorem run_live_alone (hx : w.store.stored x.key = some x) (hlive : x.isDeleting = false)
    (ho : (reconcile settings x.key now).run World.answer w = (.ok o, w')) :
    ∃ v version provider w₁, v = x.kept.revised version x.status ∧ Ready x.key v provider w₁ ∧
      w.connector = .leadsTo provider ∧ w₁.workloads = w.workloads ∧ w₁.instances = w.instances ∧
      (serveBy settings x.key now v (Memory.accessTo provider)).run World.answer w₁.connected =
        (.ok o, w') := by
  cases hreads : w.store.failingReads with
  | true =>
    have hfetch : World.answer (.fetch x.key) w =
        (.error (.invalidConfig ("mock read failure for " ++ x.key.text)), w) :=
      Prod.ext (if_pos hreads) rfl
    rw [run_of_unread hfetch] at ho
    cases ho
  | false =>
    have hfetch := World.answer_fetch x.key hreads
    rw [hx] at hfetch
    rw [run_of_found hfetch, attend_live hlive, Program.run_bind] at ho
    have hconditions := World.conditions_run (Change.addFinalizer.apply x settings.attempts) w
    have htables := World.tables_run (Change.addFinalizer.onStore_apply x settings.attempts) w
    generalize hadded : (Change.addFinalizer.apply x settings.attempts).run World.answer w = added
      at ho hconditions htables
    obtain ⟨answer, w₁⟩ := added
    cases answer with
    | error e => cases ho
    | ok v =>
      have hends := Change.endsAlone_run hx hadded
      obtain ⟨version, hv⟩ := hends.eq_kept
      have hconnect := World.answer_connect v w₁
      have hserve : ∀ {answer}, World.answer (.connect v) w₁ = (answer, w₁.connected) →
          (serve settings x.key now v).run World.answer w₁ = _ :=
        Program.run_of_answer (I := collaborators)
      cases hconnector : w₁.connector with
      | failing reason =>
        rw [hconnector] at hconnect
        cases (hserve hconnect).symm.trans ho
      | leadsTo provider =>
        rw [hconnector] at hconnect
        refine ⟨v, version, provider, w₁, hv, ?_, hconditions.1.symm.trans hconnector, htables.1,
          htables.2, (hserve hconnect).symm.trans ho⟩
        exact {
          reads := hconditions.2.trans hreads
          stored := hends.held_eq hlive
          live := by rw [hv, Scaler.isDeleting_revised, Scaler.isDeleting_kept, hlive]
          marked := by
            rw [hv]
            exact x.isMarked_kept
          connector := hconnector }

/-- A pass leaves the Scaler ready. -/
theorem Ready.pass (h : Ready key x provider w) {access : Access} {s : Selection}
    {defaultNamespace : String} {target : Target} {report : Report}
    (hrun : (setAll access s defaultNamespace target).run World.answer w = (report, w')) :
    Ready key x provider w' := by
  have hconditions := World.conditions_run (setAll access s defaultNamespace target) w
  have hstore := World.store_run ((onResources_setAll access s defaultNamespace target).mono
    fun _ => Call.writes_of_isResource) w
  rw [hrun] at hconditions hstore
  exact ⟨hconditions.2.trans h.reads, (congrArg (Store.stored · key) hstore).trans h.stored, h.live,
    h.marked, hconditions.1.trans h.connector⟩

/-- So does the record of a pass. -/
theorem Ready.setStatus (h : Ready key x provider w) (hkey : x.key = key) {status : Status}
    {y : Scaler} {attempts : Nat}
    (hrun : ((Change.setStatus status).apply x attempts).run World.answer w = (.ok y, w')) :
    (∃ version, y = x.revised version (some status)) ∧ Ready key y provider w' ∧
      w'.workloads = w.workloads ∧ w'.instances = w.instances := by
  subst hkey
  have hconditions := World.conditions_run ((Change.setStatus status).apply x attempts) w
  have htables := World.tables_run ((Change.setStatus status).onStore_apply x attempts) w
  have hends := Change.endsAlone_run h.stored hrun
  obtain ⟨version, hy⟩ := hends.eq_revised
  rw [hrun] at hconditions htables
  refine ⟨⟨version, hy⟩, ?_, htables⟩
  exact {
    reads := hconditions.2.trans h.reads
    stored := hends.held_eq h.live
    live := hy ▸ h.live
    marked := hy ▸ h.marked
    connector := hconditions.1.trans h.connector }

/-! ## Nothing to do -/

/-- A period that is not one-shot and asks for nothing, after a record that did so. -/
structure Idles (p : Period) (previous : Option PassRecord) : Prop where
  once : p.once = false
  target : p.target = .noAction
  recorded : ∃ r, previous = some r ∧ r.target = .noAction

/-- The outcome of a cycle that had nothing to do. -/
def idleOutcome (settings : Settings) (p : Period) : Outcome :=
  ⟨asked settings.steady, some "period", some p, .empty⟩

theorem not_hasRun (honce : p.once = false) (previous : Option PassRecord) :
    ¬ p.HasRun previous := by
  rintro ⟨hshot, -⟩
  cases honce.symm.trans hshot

theorem serveBy_of_idles (hp : choice x.spec.periods false now = .ok p)
    (h : Idles p x.currentPeriod) (settings : Settings) (key : Key) (access : Access) :
    serveBy settings key now x access = .done (.ok (idleOutcome settings p)) := by
  have hidle : Resolution.isIdle ⟨p, x.currentPeriod, p.snapshot⟩ = true :=
    Resolution.isIdle_iff.mpr ⟨h.target, h.recorded⟩
  unfold serveBy
  rw [resolve_of_not_hasRun hp (not_hasRun h.once _)]
  exact if_pos hidle

/-- **A cycle with nothing to do rests.** -/
theorem rests_of_idles (hw : Ready key x provider w) (hp : choice x.spec.periods false now = .ok p)
    (h : Idles p x.currentPeriod) :
    Rests settings key now w (idleOutcome settings p) w.connected := by
  have hserve := serveBy_of_idles hp h settings key (Memory.accessTo provider)
  refine rests_of_serveBy hw ?_ ?_ rfl rfl
  · rw [hserve]
    rfl
  · rw [hserve]
    exact fun e he => absurd he List.not_mem_nil

/-! ## A pass and its record -/

/-- The outcome of a cycle with a pass. -/
def passOutcome (settings : Settings) (p : Period) (report : Report) : Outcome :=
  ⟨asked settings.steady, none, some p, report⟩

/-- A record that succeeds is a change of the status that does. -/
theorem run_record {r : Resolution} {report : Report}
    (ho : (record settings x r report).run World.answer w = (.ok o, w')) :
    (∃ y, ((Change.setStatus (Stages.outcomeStatus r report)).apply x settings.attempts).run
      World.answer w = (.ok y, w')) ∧ o = passOutcome settings r.period report := by
  unfold record at ho
  rw [Program.run_bind] at ho
  generalize ((Change.setStatus (Stages.outcomeStatus r report)).apply x settings.attempts).run
    World.answer w = written at ho ⊢
  obtain ⟨answer, w₁⟩ := written
  cases answer with
  | error e => cases ho
  | ok y =>
    obtain ⟨houtcome, rfl⟩ := Prod.mk.inj ho
    exact ⟨⟨y, rfl⟩, (Except.ok.inj houtcome).symm⟩

/-- A cycle with a pass has recorded it. -/
theorem run_serveBy_of_due (hp : choice x.spec.periods false now = .ok p)
    (hdue : ¬ p.IsSkipped x.currentPeriod) {access : Access}
    (ho : (serveBy settings key now x access).run World.answer w = (.ok o, w')) :
    ∃ report y w₁,
      (setAll access x.spec.selection key.namespaceName p.target).run World.answer w =
        (report, w₁) ∧
      ((Change.setStatus (p.statusAfter report)).apply x settings.attempts).run World.answer w₁ =
        (.ok y, w') ∧
      o = passOutcome settings p report := by
  rw [serveBy_of_due hp hdue, Program.run_bind] at ho
  generalize (setAll access x.spec.selection key.namespaceName p.target).run World.answer w = pass
    at ho ⊢
  obtain ⟨report, w₁⟩ := pass
  obtain ⟨⟨y, hwritten⟩, houtcome⟩ := run_record ho
  exact ⟨report, y, w₁, rfl, hwritten, houtcome⟩

/-- **A cycle whose pass is recorded already rests.** -/
theorem rests_of_recorded (hw : Ready key x provider w)
    (hp : choice x.spec.periods false now = .ok p) (hdue : ¬ p.IsSkipped x.currentPeriod)
    {report : Report} (hstatus : x.status = some (p.statusAfter report))
    (hpass : (setAll (Memory.accessTo provider) x.spec.selection key.namespaceName p.target).run
      World.answer w.connected = (report, w'))
    (hworkloads : w'.workloads.entries = w.workloads.entries)
    (hinstances : w'.instances.entries = w.instances.entries) :
    Rests settings key now w (passOutcome settings p report) w' := by
  have hsatisfied : (Change.setStatus (p.statusAfter report)).isSatisfied x = true :=
    beq_iff_eq.mpr hstatus
  have hrecord : record settings x ⟨p, x.currentPeriod, p.snapshot⟩ report =
      .done (.ok (passOutcome settings p report)) := by
    unfold record
    exact congrArg (Program.bind · _)
      (Change.apply_of_isSatisfied hsatisfied settings.attempts)
  have hserve : serveBy settings key now x (Memory.accessTo provider) = _ :=
    serveBy_of_due hp hdue (Memory.accessTo provider)
  refine rests_of_serveBy hw ?_ ?_ hworkloads hinstances
  · rw [hserve, Program.run_bind, hpass]
    exact congrArg (Program.run World.answer · w') hrecord
  · rw [hserve, Program.transcript_bind, hpass]
    refine List.forall_mem_append.mpr ⟨?_, ?_⟩
    · intro e he
      exact Call.writes_of_isResource
        ((onResources_setAll _ _ _ _).plays (Program.plays_run _ _) e he)
    · rw [hrecord]
      exact fun e he => absurd he List.not_mem_nil

/-! ## The second cycle -/

/-- After a pass that was recorded, a cycle rests: it finds the pass in the record, or nothing to do
if the recorded period asked for nothing. -/
theorem rests_after_pass (hx : Ready key x provider w) (hkey : x.key = key) (hw : w.IsOrdered)
    (hsound : (Memory.accessTo provider).FindsSound w)
    (hp : choice x.spec.periods false now = .ok p) (honce : p.once = false)
    (hdue : ¬ p.IsSkipped x.currentPeriod)
    (ho : (serveBy settings key now x (Memory.accessTo provider)).run World.answer w =
      (.ok o, w')) :
    ∃ o' w'', Rests settings key now w' o' w'' ∧ (p.target ≠ .noAction → o' = o) := by
  obtain ⟨report, y, w₁, hpass, hwritten, rfl⟩ := run_serveBy_of_due hp hdue ho
  obtain ⟨⟨version, rfl⟩, hready, hsame⟩ := (hx.pass hpass).setStatus hkey hwritten
  by_cases htarget : p.target = .noAction
  · have hidles : Idles p (x.revised version (some (p.statusAfter report))).currentPeriod :=
      ⟨honce, htarget, _, rfl, htarget⟩
    exact ⟨_, _, rests_of_idles hready hp hidles, fun hne => absurd htarget hne⟩
  · have hstill : w'.IsOrdered := by
      have hrun := hw.run (serveBy settings key now x (Memory.accessTo provider))
      rwa [ho] at hrun
    obtain ⟨w₂, hagain, hworkloads, hinstances⟩ := setAll_again hw hsound hpass hstill.connected
      hsame.1 hsame.2
    have hdue' : ¬ p.IsSkipped (x.revised version (some (p.statusAfter report))).currentPeriod :=
      fun hskipped => hskipped.elim (not_hasRun honce _) fun h => htarget h.1
    exact ⟨_, w₂, rests_of_recorded hready hp hdue' rfl hagain hworkloads hinstances, fun _ => rfl⟩

/-- **A cycle that is repeated rests.** A cycle for a live Scaler succeeds, with a period that is
not one-shot, and the next one runs at the same instant, when nothing else has happened: it
succeeds, writes no Scaler, and leaves the store, every workload and every instance as they are. Its
outcome, with the successes and failures in it, is that of the first, unless the period asks for
nothing. -/
theorem second_cycle_rests (hw : w.IsOrdered)
    (hsound : w.connector = .leadsTo .kubernetes → ∀ e ∈ w.workloads.entries, e.1.IsSound)
    (hx : w.store.stored key = some x) (hkey : x.key = key) (hlive : x.isDeleting = false)
    (hp : choice x.spec.periods false now = .ok p) (honce : p.once = false)
    (ho : (reconcile settings key now).run World.answer w = (.ok o, w')) :
    ∃ o' w'', Rests settings key now w' o' w'' ∧ (p.target ≠ .noAction → o' = o) := by
  subst hkey
  obtain ⟨v, version, provider, w₁, hv, hready, hconnector, hworkloads, hinstances, hserve⟩ :=
    run_live_alone hx hlive ho
  have hpv : choice v.spec.periods false now = .ok p := by
    rw [hv]
    exact x.spec_kept ▸ hp
  by_cases hskipped : p.IsSkipped v.currentPeriod
  · obtain ⟨htarget, hrecorded⟩ := hskipped.resolve_left (not_hasRun honce _)
    have hidles : Idles p v.currentPeriod := ⟨honce, htarget, hrecorded⟩
    rw [serveBy_of_idles hpv hidles] at hserve
    obtain ⟨-, rfl⟩ := Prod.mk.inj hserve
    exact ⟨_, _, rests_of_idles hready.connected hpv hidles, fun hne => absurd htarget hne⟩
  · have hkey : v.key = x.key := by rw [hv, Scaler.key_revised, Scaler.key_kept]
    have hordered : w₁.IsOrdered :=
      ⟨hworkloads.symm ▸ hw.workloads, hinstances.symm ▸ hw.instances⟩
    have hfinds : (Memory.accessTo provider).FindsSound w₁.connected := by
      intro server haccess e he
      cases provider with
      | gcp => cases haccess
      | kubernetes => exact hsound hconnector e (hworkloads ▸ he)
    exact rests_after_pass hready.connected hkey hordered.connected hfinds hpv honce hskipped hserve

/-! ## Two cycles of a morning -/

/-- Workloads are down every morning. -/
def morning : Declaration where
  name := "morning"
  target := .down
  timing := .recurring
    { days := ["all"], startTime := "09:00", endTime := "12:00", once := false, timeZone := none }

/-- A Scaler for deployments of three namespaces, with its kind named twice and an unknown kind in
between. -/
def early : Scaler :=
  { Scaler.plain "default" "early" with
    spec := { (Scaler.plain "default" "early").spec with
      periods := [morning]
      selection := .workloads
        ⟨["batch", "default", "ops"], ["deployments", "cronjobs", "deployment"], [], []⟩ } }

/-- One deployment is up, one cannot be scaled, one is down already; a namespace cannot be listed.
-/
def earlyWorld : World :=
  { World.empty (.leadsTo .kubernetes) with
    store := (Store.empty.insert early).2
    workloads :=
      { Memory.Workloads.empty with
        entries := [(⟨.deployment, "batch", "jobs", 1, []⟩, []),
          (⟨.deployment, "default", "api", 2, []⟩, []),
          (⟨.deployment, "default", "web", 0, [(Scaler.replicasAnnotation, "3")]⟩, [])]
        failingScale := ["jobs"]
        failingList := ["ops"] } }

/-- The second cycle of the morning reports what the first one did: two successes and two failures
for each of the two names of the kind, and one failure for the unknown kind. -/
theorem early_rests : ∃ o w' w'',
    (reconcile .standard early.key (Instant.ofHour 19877 10)).run World.answer earlyWorld =
      (.ok o, w') ∧
    o.report.successful.length = 4 ∧ o.report.failed.length = 5 ∧
    Rests .standard early.key (Instant.ofHour 19877 10) w' o w'' := by
  have hreport : ((reconcile .standard early.key (Instant.ofHour 19877 10)).run World.answer
      earlyWorld).1.toOption.map
        (fun o => (o.report.successful.length, o.report.failed.length)) = some (4, 5) := by
    decide +kernel
  have hperiod : (choice early.spec.periods false (Instant.ofHour 19877 10)).toOption.map
      (fun p => (p.once, p.target)) = some (false, .down) := by decide +kernel
  generalize hrun : (reconcile .standard early.key (Instant.ofHour 19877 10)).run World.answer
    earlyWorld = ended at hreport
  generalize hchosen : choice early.spec.periods false (Instant.ofHour 19877 10) = chosen at hperiod
  obtain ⟨answer, w'⟩ := ended
  cases answer with
  | error e => cases hreport
  | ok o =>
    cases chosen with
    | error e => cases hperiod
    | ok p =>
      obtain ⟨hsuccesses, hfailures⟩ := Prod.mk.inj (Option.some.inj hreport)
      obtain ⟨honce, htarget⟩ := Prod.mk.inj (Option.some.inj hperiod)
      obtain ⟨o', w'', hrests, hsame⟩ := second_cycle_rests (x := Store.withVersion 1 early)
        (by decide) (fun _ => by decide +kernel) (by decide +kernel) rfl rfl hchosen honce hrun
      obtain rfl := hsame (by rw [htarget]; decide)
      exact ⟨_, w', w'', rfl, hsuccesses, hfailures, hrests⟩

end Cycle

end PeriodScaler
