import PeriodScaler.Proofs.Answers
import PeriodScaler.Proofs.Cycle.Course
import PeriodScaler.Proofs.Cycle.Writes
import PeriodScaler.Proofs.Scaling.Passes

/-!
# What a pass records, and when there is none

The period of a live Scaler is chosen on the version that the finalizer stage leaves. It is skipped
when it is one-shot and recorded, or when it asks for nothing and so does the recorded one. Then no
resource is looked at and the record stays. Otherwise one pass over all kinds brings the resources
to its target, and the status is replaced by the record of that pass. The rest of the Scaler stays
as it was, but for its version and the marker that may have been put on it.

* **`serveBy_of_skipped`**, **`serveBy_of_due`**: the two courses of a live Scaler.
* **`plays_serve_of_due`**: what is exchanged when a period is due.
* **`run_live`**: a cycle that succeeds leaves a version of the Scaler at its finalizer stage.
* **`skips_or_records`**: when a period is skipped, and what is left in both cases.
-/

namespace PeriodScaler

open Memory (World Store)

/-! ## The period and its record -/

namespace Period

/-- A period is skipped after a record: it is one-shot and has that record, or it asks for nothing
and so did the recorded one. -/
def IsSkipped (p : Period) (previous : Option PassRecord) : Prop :=
  p.HasRun previous ∨
    (p.target = .noAction ∧ ∃ r, previous = some r ∧ r.target = .noAction)

/-- The status with the outcome of a pass for a period. -/
def statusAfter (p : Period) (report : Report) : Status where
  current := some ⟨p.name, p.target, p.fingerprint, report.successful, report.failed⟩
  comments := some ("Period '" ++ p.name ++ "' (" ++ p.target.name ++ "): " ++
    Text.ofNat report.successful.length ++ " succeeded, " ++
    Text.ofNat report.failed.length ++ " failed")

end Period

namespace Scaler

/-- A Scaler with its marker, after the other finalizers if it had none. -/
def kept (x : Scaler) : Scaler :=
  if x.isMarked then x
  else { x with metadata :=
    { x.metadata with finalizers := some (x.finalizers ++ [finalizer]) } }

/-- A Scaler at another version with another status. -/
def revised (x : Scaler) (version : Option String) (status : Option Status) : Scaler :=
  { x with metadata := { x.metadata with resourceVersion := version }, status }

variable (x : Scaler) (version : Option String) (status : Option Status)

@[simp] theorem key_kept : x.kept.key = x.key := by
  unfold kept
  split <;> rfl

@[simp] theorem isDeleting_kept : x.kept.isDeleting = x.isDeleting := by
  unfold kept
  split <;> rfl

@[simp] theorem key_revised : (x.revised version status).key = x.key := rfl

@[simp] theorem isDeleting_revised : (x.revised version status).isDeleting = x.isDeleting := rfl

end Scaler

/-! ## The two courses -/

section Serve

variable {settings : Settings} {key : Key} {now : Instant} {x : Scaler} {p : Period}
  {l : List collaborators.Exchange} {o : Outcome}

/-- **A period that is skipped** ends the cycle after the connection. -/
theorem serveBy_of_skipped (settings : Settings) (key : Key)
    (hp : choice x.spec.periods false now = .ok p) (hskipped : p.IsSkipped x.currentPeriod) :
    ∃ result : Except CycleError Outcome,
      (∀ o, result = .ok o → o.stoppedBy = some "period") ∧
      ∀ access, Cycle.serveBy settings key now x access = .done result := by
  unfold Cycle.serveBy
  by_cases hrun : p.HasRun x.currentPeriod
  · rw [resolve_of_hasRun hp hrun]
    cases hdelay : p.rerunDelay now settings.grace with
    | ok delay =>
      refine ⟨.ok ⟨Cycle.asked delay, some "period", none, .empty⟩, ?_,
        fun _ => by simp only [hdelay]⟩
      rintro o ⟨⟩
      rfl
    | error f =>
      refine ⟨.error (.critical (.fault f)), ?_, fun _ => by simp only [hdelay]⟩
      rintro o ⟨⟩
  · have hidle : Resolution.isIdle ⟨p, x.currentPeriod, p.snapshot⟩ = true :=
      Resolution.isIdle_iff.mpr (hskipped.resolve_left hrun)
    rw [resolve_of_not_hasRun hp hrun]
    refine ⟨.ok ⟨Cycle.asked settings.steady, some "period", some p, .empty⟩, ?_,
      fun access => if_pos hidle⟩
    rintro o ⟨⟩
    rfl

/-- **A period that is due** is applied by a pass, which is recorded. -/
theorem serveBy_of_due (hp : choice x.spec.periods false now = .ok p)
    (hdue : ¬ p.IsSkipped x.currentPeriod) (access : Access) :
    Cycle.serveBy settings key now x access =
      (setAll access x.spec.selection key.namespaceName p.target).bind
        (Cycle.record settings x ⟨p, x.currentPeriod, p.snapshot⟩) := by
  have hidle : ¬ Resolution.isIdle ⟨p, x.currentPeriod, p.snapshot⟩ = true :=
    fun h => hdue (Or.inr (Resolution.isIdle_iff.mp h))
  unfold Cycle.serveBy
  rw [resolve_of_not_hasRun hp fun hrun => hdue (Or.inl hrun)]
  exact if_neg hidle

/-! ## What is exchanged -/

/-- A cycle for a live Scaler that succeeds has connected, and goes on from there. -/
theorem plays_serve (h : (Cycle.serve settings key now x).Plays l (.ok o)) :
    ∃ (access : Access) (rest : List collaborators.Exchange),
      l = ⟨.connect x, .ok access⟩ :: rest ∧
        (Cycle.serveBy settings key now x access).Plays rest (.ok o) := by
  obtain ⟨answer, rest, rfl, hanswer⟩ := Program.plays_ask_iff.mp h
  cases answer with
  | error e => cases (Program.plays_done_iff.mp hanswer).2
  | ok access => exact ⟨access, rest, rfl, hanswer⟩

/-- It has chosen a period. -/
theorem choice_of_plays_serve (h : (Cycle.serve settings key now x).Plays l (.ok o)) :
    ∃ p, choice x.spec.periods false now = .ok p := by
  obtain ⟨access, rest, -, hby⟩ := plays_serve h
  cases hchoice : choice x.spec.periods false now with
  | ok p => exact ⟨p, rfl⟩
  | error e =>
    obtain ⟨name, flaw, rfl⟩ := choice_error hchoice
    unfold Cycle.serveBy at hby
    rw [resolve_of_choice_error hchoice] at hby
    cases (Program.plays_done_iff.mp hby).2

theorem plays_serve_of_skipped (hp : choice x.spec.periods false now = .ok p)
    (hskipped : p.IsSkipped x.currentPeriod)
    (h : (Cycle.serve settings key now x).Plays l (.ok o)) :
    o.stoppedBy = some "period" ∧ ∃ access, l = [⟨.connect x, .ok access⟩] := by
  obtain ⟨result, hresult, hserve⟩ := serveBy_of_skipped settings key hp hskipped
  obtain ⟨access, rest, rfl, hby⟩ := plays_serve h
  rw [hserve access] at hby
  obtain ⟨rfl, ho⟩ := Program.plays_done_iff.mp hby
  exact ⟨hresult o ho, access, rfl⟩

/-- What is exchanged when a period is due: a connection, one pass over all kinds, and the reads and
writes that record its report. -/
inductive Applies (key : Key) (x : Scaler) (p : Period) :
    List collaborators.Exchange → Report → Prop where
  | passed {access pass report rest}
    (hpass : Passes access x.spec.selection key.namespaceName p.target x.spec.selection.types pass
      report)
    (hresources : ∀ e ∈ pass, e.call.isResource = true)
    (hrest : ∀ e ∈ rest, (∃ k, e.call = .fetch k) ∨ e.call.isRecording = true) :
    Applies key x p (⟨.connect x, .ok access⟩ :: (pass ++ rest)) report

/-- Recording a report only reads Scalers and writes a status; the outcome has the period and the
report. -/
theorem plays_record {r : Resolution} {report : Report}
    (h : (Cycle.record settings x r report).Plays l (.ok o)) :
    (∀ e ∈ l, (∃ k, e.call = .fetch k) ∨ e.call.isRecording = true) ∧
      o.stoppedBy = none ∧ o.period = some r.period ∧ o.report = report := by
  obtain ⟨l₁, answer, l₂, rfl, happly, hend⟩ := Program.plays_bind_iff.mp h
  have hcalls := ((Change.setStatus (Stages.outcomeStatus r report)).calls_apply
    (Q := fun c => (∃ k, c = .fetch k) ∨ c.isRecording = true)
    (fun _ => Or.inr rfl) (fun k => Or.inl ⟨k, rfl⟩) x settings.attempts).plays happly
  cases answer with
  | error e => cases (Program.plays_done_iff.mp hend).2
  | ok y =>
    obtain ⟨rfl, ho⟩ := Program.plays_done_iff.mp hend
    obtain rfl := Except.ok.inj ho
    rw [List.append_nil]
    exact ⟨hcalls, rfl, rfl, rfl⟩

/-- **What is exchanged when a period is due.** -/
theorem plays_serve_of_due (hp : choice x.spec.periods false now = .ok p)
    (hdue : ¬ p.IsSkipped x.currentPeriod)
    (h : (Cycle.serve settings key now x).Plays l (.ok o)) :
    o.stoppedBy = none ∧ o.period = some p ∧ Applies key x p l o.report := by
  obtain ⟨access, rest, rfl, hby⟩ := plays_serve h
  rw [serveBy_of_due hp hdue] at hby
  obtain ⟨pass, report, after, rfl, hpass, hafter⟩ := Program.plays_bind_iff.mp hby
  obtain ⟨hcalls, hstop, hperiod, rfl⟩ := plays_record hafter
  exact ⟨hstop, hperiod,
    .passed (passes_setAll hpass) ((onResources_setAll _ _ _ _).plays hpass) hcalls⟩

end Serve

/-! ## What is left when nobody else writes -/

section Alone

variable {settings : Settings} {key : Key} {now : Instant} {x y : Scaler} {p : Period}
  {i : Interference World} {held : Option Scaler}

/-- A live Scaler is held as a change gave it. -/
theorem Change.EndsAlone.held_eq {c : Change} (h : c.EndsAlone x (.ok y) held)
    (hlive : x.isDeleting = false) : held = some y := by
  cases h with
  | satisfied => rfl
  | @committed n =>
    have hstill : (Store.withVersion n (c.made x)).isDeleting = false := by
      cases c <;> exact hlive
    exact Store.remains_of_live hstill

/-- The marker is put on a Scaler that has none, and nothing else changes. -/
theorem Change.EndsAlone.eq_kept (h : addFinalizer.EndsAlone x (.ok y) held) :
    ∃ version, y = x.kept.revised version x.status := by
  cases h with
  | satisfied hsatisfied =>
    have hmarked : x.isMarked = true := hsatisfied
    refine ⟨x.metadata.resourceVersion, ?_⟩
    rw [Scaler.kept, if_pos hmarked]
    rfl
  | @committed n hmissing =>
    have hbare : ¬ x.isMarked = true := Bool.not_eq_true _ ▸ hmissing
    refine ⟨some (Text.ofNat n), ?_⟩
    rw [Scaler.kept, if_neg hbare]
    rfl

/-- The status is replaced, and nothing else changes. -/
theorem Change.EndsAlone.eq_revised {status : Status}
    (h : (setStatus status).EndsAlone x (.ok y) held) :
    ∃ version, y = x.revised version (some status) := by
  cases h with
  | satisfied hsatisfied =>
    have hstatus : x.status = some status := eq_of_beq hsatisfied
    refine ⟨x.metadata.resourceVersion, ?_⟩
    rw [← hstatus]
    rfl
  | @committed n => exact ⟨some (Text.ofNat n), rfl⟩

/-- A period that is skipped leaves the Scaler as it is. -/
theorem ensures_serve_of_skipped (hi : i.Leaves key)
    (hp : choice x.spec.periods false now = .ok p) (hskipped : p.IsSkipped x.currentPeriod) :
    (Cycle.serve settings key now x).Ensures (i.around World.answer)
      (fun s => heldUnder key s = some x) fun _ s => heldUnder key s = some x := by
  obtain ⟨result, -, hserve⟩ := serveBy_of_skipped settings key hp hskipped
  refine calls_hold (P := fun held => held = some x) (hi.preserves _) ⟨rfl, fun answer => ?_⟩
  cases answer with
  | error e => trivial
  | ok access =>
    simp only [hserve access]
    trivial

/-- A period that is due leaves its record in the place of the status. -/
theorem ensures_serve_of_due (hi : i.Leaves key) (hkey : x.key = key)
    (hlive : x.isDeleting = false) (hp : choice x.spec.periods false now = .ok p)
    (hdue : ¬ p.IsSkipped x.currentPeriod) :
    (Cycle.serve settings key now x).Ensures (i.around World.answer)
      (fun s => heldUnder key s = some x) fun result s => ∀ o, result = .ok o →
        ∃ version, heldUnder key s = some (x.revised version (some (p.statusAfter o.report))) := by
  have hholds := fun {α : Type} {q : Work α} =>
    calls_hold (P := fun held => held = some x) (hi.preserves _) (p := q)
  have hconnect : (Program.call (I := collaborators) (.connect x)).Ensures (i.around World.answer)
      (fun s => heldUnder key s = some x) fun _ s => heldUnder key s = some x :=
    hholds ⟨rfl, fun _ => trivial⟩
  refine Program.Ensures.ask (fun _ s => heldUnder key s = some x) hconnect fun answer => ?_
  cases answer with
  | error e =>
    refine Program.Ensures.done fun s _ => ?_
    rintro o ⟨⟩
  | ok access =>
    have hpass := hholds ((onResources_setAll access x.spec.selection key.namespaceName
      p.target).mono fun _ => Call.writes_of_isResource)
    simp only [serveBy_of_due hp hdue access]
    refine hpass.bind fun report => ?_
    refine Program.Ensures.bind
      (Change.ensures_alone hi (.setStatus (p.statusAfter report)) hkey settings.attempts)
      fun answer => ?_
    cases answer with
    | error e =>
      refine Program.Ensures.done fun s _ => ?_
      rintro o ⟨⟩
    | ok y =>
      refine Program.Ensures.done fun s hs => ?_
      rintro o ⟨⟩
      obtain ⟨version, rfl⟩ := hs.eq_revised
      exact ⟨version, hs.held_eq hlive⟩

end Alone

/-! ## A cycle -/

section Cycle

variable {settings : Settings} {key : Key} {now : Instant} {x : Scaler} {i : Interference World}
  {s : Nat × World} {o : Outcome}

/-- The finalizer stage of a live Scaler puts the marker on it. -/
theorem execute_finalizer_live (hlive : x.isDeleting = false) :
    Chain.execute [Stages.finalizer settings.attempts] (Cycle.met key now x false) =
      (Change.addFinalizer.apply x settings.attempts).bind fun
        | .ok v => .done (.ok ⟨Cycle.met key now v false, none⟩)
        | .error e => .done (.error (.recoverable e)) := by
  rw [Chain.execute]
  simp only [Stages.finalizer,
    Stages.withScaler_eq (c := Cycle.met key now x false) (x := x) rfl, hlive, Bool.false_eq_true,
    if_false]
  cases hmarked : x.isMarked with
  | true =>
    rw [Change.apply_of_isSatisfied (c := .addFinalizer) hmarked]
    rfl
  | false =>
    simp only [Bool.false_eq_true, if_false, Program.bind_eq, Program.bind_assoc]
    congr 1
    funext answer
    cases answer <;> rfl

/-- **A cycle that succeeds leaves a version of the Scaler at its finalizer stage**, and serves that
one; before, it only reads Scalers and writes finalizers. -/
theorem run_live (hx : (i.change s.1 s.2).store.stored key = some x)
    (hlive : x.isDeleting = false) (ho : (Cycle.runUnder i settings key now s).1 = .ok o) :
    ∃ v t before,
      (Change.addFinalizer.apply x settings.attempts).run (i.around World.answer)
        (s.1 + 1, i.change s.1 s.2) = (.ok v, t) ∧
      ((Chain.execute ((Cycle.stages settings).take 2) (.start key now)).run
        (i.around World.answer) s).1 = .ok ⟨Cycle.met key now v false, none⟩ ∧
      Cycle.runUnder i settings key now s =
        (Cycle.serve settings key now v).run (i.around World.answer) t ∧
      Cycle.exchangesUnder i settings key now s =
        before ++ (Cycle.serve settings key now v).transcript (i.around World.answer) t ∧
      ∀ e ∈ before, e.call.isFinalizing = true := by
  unfold Cycle.runUnder at ho
  unfold Cycle.runUnder Cycle.exchangesUnder
  rcases fetch_cases hx with ⟨e, hfetch⟩ | hfetch
  · rw [Cycle.run_of_unread hfetch] at ho
    cases ho
  · have hstage := Cycle.run_execute_of_found hfetch now [Stages.finalizer settings.attempts]
    have hcalls := (Change.addFinalizer.calls_apply (Q := fun c => c.isFinalizing = true)
      (fun _ => rfl) (fun _ => rfl) x settings.attempts).plays
        (Program.plays_run (h := i.around World.answer) _ (s.1 + 1, i.change s.1 s.2))
    rw [execute_finalizer_live hlive, Program.run_bind] at hstage
    rw [Cycle.run_of_found hfetch, Cycle.attend_live hlive, Program.run_bind] at ho
    rw [Cycle.run_of_found hfetch, Cycle.transcript_of_found hfetch, Cycle.attend_live hlive,
      Program.run_bind, Program.transcript_bind]
    generalize hadded : (Change.addFinalizer.apply x settings.attempts).run (i.around World.answer)
      (s.1 + 1, i.change s.1 s.2) = added at hstage ho ⊢
    obtain ⟨answer, t⟩ := added
    cases answer with
    | error e => cases ho
    | ok v =>
      exact ⟨v, t, _ :: _, rfl, congrArg Prod.fst hstage, rfl, rfl,
        List.forall_mem_cons.mpr ⟨rfl, hcalls⟩⟩

/-- **When a pass is skipped, and what is recorded**, for a live Scaler and a cycle that succeeds,
whatever happens in between. The period stage ends the cycle exactly when the period that is chosen
on the version that the finalizer stage left is skipped after its record; then no resource is asked
for and no status is written. Otherwise the period is applied by one pass over all kinds. If nobody
else wrote the Scaler, it has its marker and a version, its status is the one before or that of the
pass, and the rest is as it was. -/
theorem skips_or_records (hx : (i.change s.1 s.2).store.stored key = some x) (hkey : x.key = key)
    (hlive : x.isDeleting = false) (ho : (Cycle.runUnder i settings key now s).1 = .ok o) :
    ∃ v p,
      ((Chain.execute ((Cycle.stages settings).take 2) (.start key now)).run
        (i.around World.answer) s).1 = .ok ⟨Cycle.met key now v false, none⟩ ∧
      choice v.spec.periods false now = .ok p ∧
      (o.stoppedBy = some "period" ↔ p.IsSkipped v.currentPeriod) ∧
      (p.IsSkipped v.currentPeriod →
        (∀ e ∈ Cycle.exchangesUnder i settings key now s,
          e.call.isFinalizing = true ∨ e.call = .connect v) ∧
        (i.Leaves key → ∃ version, heldUnder key (Cycle.runUnder i settings key now s).2 =
          some (x.kept.revised version x.status))) ∧
      (¬ p.IsSkipped v.currentPeriod →
        o.stoppedBy = none ∧ o.period = some p ∧
        (∃ before rest, Cycle.exchangesUnder i settings key now s = before ++ rest ∧
          (∀ e ∈ before, e.call.isFinalizing = true) ∧ Applies key v p rest o.report) ∧
        (i.Leaves key → ∃ version, heldUnder key (Cycle.runUnder i settings key now s).2 =
          some (x.kept.revised version (some (p.statusAfter o.report))))) := by
  obtain ⟨v, t, before, hadded, hstage, hrun, hexchanges, hbefore⟩ := run_live hx hlive ho
  rw [hrun] at ho
  rw [hrun, hexchanges]
  have hplays := Program.plays_run (h := i.around World.answer) (Cycle.serve settings key now v) t
  rw [ho] at hplays
  obtain ⟨p, hp⟩ := choice_of_plays_serve hplays
  have hleft : i.Leaves key → heldUnder key t = some v ∧ v.key = key ∧ v.isDeleting = false ∧
      ∃ version, v = x.kept.revised version x.status := by
    intro hi
    have hends := Change.ensures_alone hi .addFinalizer hkey settings.attempts
      (s.1 + 1, i.change s.1 s.2) hx
    rw [hadded] at hends
    obtain ⟨version, hv⟩ := hends.eq_kept
    refine ⟨hends.held_eq hlive, ?_, ?_, version, hv⟩
    · rw [hv, Scaler.key_revised, Scaler.key_kept, hkey]
    · rw [hv, Scaler.isDeleting_revised, Scaler.isDeleting_kept, hlive]
  refine ⟨v, p, hstage, hp, ?_, fun hskipped => ?_, fun hdue => ?_⟩
  · constructor
    · intro hstop
      by_contra hdue
      rw [(plays_serve_of_due hp hdue hplays).1] at hstop
      cases hstop
    · intro hskipped
      exact (plays_serve_of_skipped hp hskipped hplays).1
  · obtain ⟨-, access, hserved⟩ := plays_serve_of_skipped hp hskipped hplays
    rw [hserved]
    refine ⟨fun e he => ?_, fun hi => ?_⟩
    · rcases List.mem_append.mp he with he | he
      · exact Or.inl (hbefore e he)
      · rw [List.mem_singleton.mp he]
        exact Or.inr rfl
    · obtain ⟨hheld, -, -, version, hv⟩ := hleft hi
      exact ⟨version, (ensures_serve_of_skipped hi hp hskipped t hheld).trans (congrArg some hv)⟩
  · obtain ⟨hstop, hperiod, happlies⟩ := plays_serve_of_due hp hdue hplays
    refine ⟨hstop, hperiod, ⟨before, _, rfl, hbefore, happlies⟩, fun hi => ?_⟩
    obtain ⟨hheld, hvkey, hvlive, version, hv⟩ := hleft hi
    obtain ⟨latest, hlatest⟩ := ensures_serve_of_due hi hvkey hvlive hp hdue t hheld o ho
    refine ⟨latest, hlatest.trans (congrArg some ?_)⟩
    rw [hv]
    rfl

end Cycle

/-! ## A siesta -/

/-- A siesta every afternoon, to be taken once or on each day. -/
def siesta (once : Bool) : Declaration where
  name := "siesta"
  target := .down
  timing := .recurring
    { days := ["all"], startTime := "13:00", endTime := "16:00", once, timeZone := none }

/-- The siesta of 3 June 2024. -/
def juneSiesta (once : Bool) : Period :=
  (siesta once).period
    ⟨true, Instant.ofHour 19877 ⟨13, by decide⟩, Instant.ofHour 19877 ⟨16, by decide⟩⟩

/-- The record of a pass in the morning of that day. -/
def morningRecord : PassRecord :=
  ⟨"default-restore", .restore, Declaration.defaultRestore.fingerprint, [], []⟩

/-- A Scaler with a siesta as its only period, after a pass. -/
def resting (once : Bool) (record : PassRecord) : Scaler :=
  let plain := Scaler.plain "default" "nightly"
  { plain with
    spec := { plain.spec with periods := [siesta once] }
    status := some { current := some record, comments := none } }

/-- A world with that Scaler, and a deployment with two replicas. -/
def afternoon (once : Bool) (record : PassRecord) : World :=
  { World.empty (.leadsTo .kubernetes) with
    store := (Store.empty.insert (resting once record)).2
    workloads :=
      { Memory.Workloads.empty with
        entries := [(⟨.deployment, "default", "api", 2, []⟩, [])] } }

/-- The siesta is the period that applies at 14:00. -/
theorem choice_siesta (once : Bool) :
    choice [siesta once] false (Instant.ofHour 19877 14) = .ok (juneSiesta once) := by
  have hchosen : Chosen (Instant.ofHour 19877 14) false ([] ++ siesta once :: [])
      (.ok (juneSiesta once)) :=
    .opened (fun _ h => absurd h List.not_mem_nil) (by cases once <;> decide) (by decide)
  exact (hchosen.eq_choice (by decide)).symm

/-- There a cycle serves the Scaler with its marker, and for the siesta. -/
theorem served_siesta {once : Bool} {record : PassRecord} {v : Scaler} {p : Period}
    (hv : ((Chain.execute ((Cycle.stages .standard).take 2)
      (.start ⟨"default", "nightly"⟩ (Instant.ofHour 19877 14))).run
        (Interference.calm.around World.answer) (0, afternoon once record)).1 =
      .ok ⟨Cycle.met ⟨"default", "nightly"⟩ (Instant.ofHour 19877 14) v false, none⟩)
    (hp : choice v.spec.periods false (Instant.ofHour 19877 14) = .ok p) :
    v = Store.withVersion 2 (resting once record).kept ∧ p = juneSiesta once := by
  have hrun : ((Chain.execute ((Cycle.stages .standard).take 2)
      (.start ⟨"default", "nightly"⟩ (Instant.ofHour 19877 14))).run
        (Interference.calm.around World.answer) (0, afternoon once record)).1 =
      .ok ⟨Cycle.met ⟨"default", "nightly"⟩ (Instant.ofHour 19877 14)
        (Store.withVersion 2 (resting once record).kept) false, none⟩ := rfl
  have hflow := Except.ok.inj (hv.symm.trans hrun)
  obtain rfl := Option.some.inj (congrArg (fun r => r.context.scaler) hflow)
  exact ⟨rfl, Except.ok.inj (hp.symm.trans (choice_siesta once))⟩

/-- A siesta of each day is applied after the record of the morning: one pass scales the deployment
down, and it is recorded. One that is to be taken once is skipped after its own record, and the
deployment and the record stay. -/
theorem siesta_recorded_or_skipped :
    (∃ o v before pass rest version,
      (Cycle.runUnder .calm .standard ⟨"default", "nightly"⟩ (Instant.ofHour 19877 14)
        (0, afternoon false morningRecord)).1 = .ok o ∧ o.period = some (juneSiesta false) ∧
      Cycle.exchangesUnder .calm .standard ⟨"default", "nightly"⟩ (Instant.ofHour 19877 14)
          (0, afternoon false morningRecord) =
        before ++ ⟨.connect v, .ok (.workloads none)⟩ :: (pass ++ rest) ∧
      (deployments.setState .down).Plays pass (.ok o.report) ∧
      (Cycle.runUnder .calm .standard ⟨"default", "nightly"⟩ (Instant.ofHour 19877 14)
        (0, afternoon false morningRecord)).2.2.workloads.entries =
          [(⟨.deployment, "default", "api", 0, [(Scaler.replicasAnnotation, "2")]⟩, [])] ∧
      heldUnder ⟨"default", "nightly"⟩ (Cycle.runUnder .calm .standard ⟨"default", "nightly"⟩
        (Instant.ofHour 19877 14) (0, afternoon false morningRecord)).2 =
          some ((resting false morningRecord).kept.revised version
            (some ((juneSiesta false).statusAfter o.report)))) ∧
    ∃ o version,
      (Cycle.runUnder .calm .standard ⟨"default", "nightly"⟩ (Instant.ofHour 19877 14)
        (0, afternoon true (juneSiesta true).snapshot)).1 = .ok o ∧
      o.stoppedBy = some "period" ∧
      (Cycle.runUnder .calm .standard ⟨"default", "nightly"⟩ (Instant.ofHour 19877 14)
        (0, afternoon true (juneSiesta true).snapshot)).2.2.workloads.entries =
          [(⟨.deployment, "default", "api", 2, []⟩, [])] ∧
      heldUnder ⟨"default", "nightly"⟩ (Cycle.runUnder .calm .standard ⟨"default", "nightly"⟩
        (Instant.ofHour 19877 14) (0, afternoon true (juneSiesta true).snapshot)).2 =
          some ((resting true (juneSiesta true).snapshot).kept.revised version
            (some { current := some (juneSiesta true).snapshot, comments := none })) := by
  constructor
  · obtain ⟨o, ho⟩ : ∃ o, (Cycle.runUnder .calm .standard ⟨"default", "nightly"⟩
        (Instant.ofHour 19877 14) (0, afternoon false morningRecord)).1 = .ok o :=
      exists_ok (by decide +kernel)
    have haccess : (Cycle.exchangesUnder .calm .standard ⟨"default", "nightly"⟩
        (Instant.ofHour 19877 14) (0, afternoon false morningRecord)).filterMap
          Interface.Exchange.access? = [.workloads none] := by decide +kernel
    obtain ⟨v, p, hv, hp, -, -, hrecords⟩ :=
      @skips_or_records .standard ⟨"default", "nightly"⟩ (Instant.ofHour 19877 14) _ .calm
        (0, afternoon false morningRecord) o rfl rfl rfl ho
    obtain ⟨rfl, rfl⟩ := served_siesta hv hp
    have hdue : ¬ (juneSiesta false).IsSkipped (some morningRecord) := by
      rintro (⟨honce, -⟩ | ⟨hidle, -⟩)
      · cases honce
      · cases hidle
    obtain ⟨-, hperiod, ⟨before, rest, hexchanges, -, happlies⟩, hheld⟩ := hrecords hdue
    obtain ⟨version, hleft⟩ := hheld fun _ _ => rfl
    rw [hexchanges] at haccess
    cases happlies with
    | @passed access _ _ rest hpass _ _ =>
      obtain rfl : access = .workloads none := by
        have hmem : access ∈ [Access.workloads none] := haccess ▸ List.mem_filterMap.mpr
          ⟨_, List.mem_append_right before List.mem_cons_self, rfl⟩
        exact List.mem_singleton.mp hmem
      obtain ⟨pass, report, none, others, rfl, hreport, hplays, hnone⟩ :=
        hpass.of_workloads .deployment rfl
      cases hnone
      rw [List.append_nil] at hexchanges
      rw [Report.append_empty] at hreport
      subst hreport
      exact ⟨o, _, before, pass, rest, version, ho, hperiod, hexchanges, hplays, by decide +kernel,
        hleft.trans rfl⟩
  · obtain ⟨hok, hworkloads⟩ := Prod.mk.inj (show
      ((Cycle.runUnder .calm .standard ⟨"default", "nightly"⟩ (Instant.ofHour 19877 14)
          (0, afternoon true (juneSiesta true).snapshot)).1.isOk,
        (Cycle.runUnder .calm .standard ⟨"default", "nightly"⟩ (Instant.ofHour 19877 14)
          (0, afternoon true (juneSiesta true).snapshot)).2.2.workloads.entries) =
        (true, [(⟨.deployment, "default", "api", 2, []⟩, [])]) by decide +kernel)
    obtain ⟨o, ho⟩ := exists_ok hok
    obtain ⟨v, p, hv, hp, hiff, hskips, -⟩ :=
      @skips_or_records .standard ⟨"default", "nightly"⟩ (Instant.ofHour 19877 14) _ .calm
        (0, afternoon true (juneSiesta true).snapshot) o rfl rfl rfl ho
    obtain ⟨rfl, rfl⟩ := served_siesta hv hp
    have hskipped : (juneSiesta true).IsSkipped (some (juneSiesta true).snapshot) :=
      Or.inl ⟨rfl, _, rfl, rfl⟩
    obtain ⟨-, hheld⟩ := hskips hskipped
    obtain ⟨version, hleft⟩ := hheld fun _ _ => rfl
    exact ⟨o, version, ho, hiff.mpr hskipped, hworkloads, hleft.trans rfl⟩

end PeriodScaler
