import PeriodScaler.Proofs.Cycle.Ways
import PeriodScaler.Proofs.Cycle.Leaving

/-!
# Failed cycles

A failed cycle is critical for three reasons and no other: its Scaler does not exist, the connection
to the provider was refused for good, or the period of a live Scaler cannot be told because a flawed
entry comes before any open one. All three show in what the cycle exchanged (`Cycle.IsHopeless`),
and each of them comes before a resource is asked for and before a status is written. Everything
else is tried again soon.

The cause is one that a call was answered with, a Scaler that is gone, or a flawed entry. That a
state is missing, or that a period has run, is known only within a cycle.

* **`severity_of_goes`**: a failed cycle is critical exactly when it is hopeless.
* **`cause_of_goes`**: where the cause of a failed cycle comes from.
* **`failure_classified`**: the classification, whatever happens in between.
-/

namespace PeriodScaler

open Memory (World)

/-! ## Connections -/

/-- Whether a call is for a connection to a provider. -/
def Call.isConnection : Call → Bool
  | connect _ => true
  | _ => false

theorem Call.not_connection_of_resource {c : Call} (h : c.isResource = true) :
    c.isConnection = false := by
  cases c <;> first | rfl | cases h

theorem Change.Tries.not_connection {c : Change} {key : Key} {x : Scaler}
    {l : List collaborators.Exchange} {answer : Except Cause Scaler} (h : c.Tries key x l answer) :
    ∀ e ∈ l, e.call.isConnection = false := by
  intro e he
  rcases h.calls e he with ⟨other, hcall⟩ | hcall
  · rw [hcall]
    cases c <;> rfl
  · rw [hcall]
    rfl

/-- There is one connection where nothing before and after it is one. -/
theorem connection_mem_iff {front back : List collaborators.Exchange} {v w : Scaler}
    {a b : Except Cause Access} (hfront : ∀ e ∈ front, e.call.isConnection = false)
    (hback : ∀ e ∈ back, e.call.isConnection = false) :
    (⟨.connect w, a⟩ : collaborators.Exchange) ∈ front ++ ⟨.connect v, b⟩ :: back ↔
      w = v ∧ a = b := by
  constructor
  · intro h
    rcases List.mem_append.mp h with h | h
    · cases hfront _ h
    · rcases List.mem_cons.mp h with h | h
      · cases h
        exact ⟨rfl, rfl⟩
      · cases hback _ h
  · rintro ⟨rfl, rfl⟩
    exact List.mem_append_right front List.mem_cons_self

/-! ## Hopeless cycles -/

/-- A flawed entry comes before any open one. -/
def MeetsFlaw (now : Instant) (ds : List Declaration) : Prop :=
  ∃ before d after flaw, ds = before ++ d :: after ∧
    (∀ e ∈ before, Declaration.IsClosed now e) ∧ d.timing.window now = .error flaw

theorem meetsFlaw_iff {now : Instant} (hnow : now.isInner) {ds : List Declaration}
    (previous : Option PassRecord) : MeetsFlaw now ds ↔
      ∃ name flaw, resolve ds previous false now = .error (.invalid name flaw) := by
  constructor
  · rintro ⟨before, d, after, flaw, rfl, hclosed, hflaw⟩
    have hchosen : Chosen now false (before ++ d :: after) (.error (.invalid d.name flaw)) :=
      .flawed hclosed hflaw
    exact ⟨d.name, flaw, resolve_eq_invalid_iff.mpr (hchosen.eq_choice hnow).symm⟩
  · rintro ⟨name, flaw, h⟩
    have hchosen := (chosen_iff hnow).mpr (resolve_eq_invalid_iff.mp h).symm
    cases hchosen with
    | flawed hclosed hflaw => exact ⟨_, _, _, _, rfl, hclosed, hflaw⟩

namespace Cycle

/-- The exchanges of a cycle that need not be tried again soon: its Scaler does not exist, the
connection was refused and not only cancelled, or a live Scaler has a flawed entry before any open
one. -/
inductive IsHopeless (key : Key) (now : Instant) (l : List collaborators.Exchange) : Prop where
  | missing (h : l.head? = some ⟨.fetch key, .ok none⟩)
  | refused {v c} (h : (⟨.connect v, .error c⟩ : collaborators.Exchange) ∈ l) (hc : c ≠ .cancelled)
  | flawed {x v access} (hx : l.head? = some ⟨.fetch key, .ok (some x)⟩)
    (hlive : x.isDeleting = false)
    (h : (⟨.connect v, .ok access⟩ : collaborators.Exchange) ∈ l)
    (hflaw : MeetsFlaw now v.spec.periods)

section Hopeless

variable {s : Settings} {key : Key} {now : Instant} {l front back : List collaborators.Exchange}
  {x v : Scaler} {e : CycleError}

/-- Without a connection, only a missing Scaler is hopeless. -/
theorem not_isHopeless (hhead : l.head? ≠ some ⟨.fetch key, .ok none⟩)
    (hl : ∀ e ∈ l, e.call.isConnection = false) : ¬ IsHopeless key now l := by
  intro h
  cases h with
  | missing h => exact hhead h
  | refused h hc => cases hl _ h
  | flawed hx hlive h hflaw => cases hl _ h

/-- With one connection, its answer decides, and then the periods of a live Scaler. -/
theorem isHopeless_iff {b : Except Cause Access} (hfront : ∀ e ∈ front, e.call.isConnection = false)
    (hback : ∀ e ∈ back, e.call.isConnection = false) :
    IsHopeless key now (⟨.fetch key, .ok (some x)⟩ :: (front ++ ⟨.connect v, b⟩ :: back)) ↔
      (∃ c, b = .error c ∧ c ≠ .cancelled) ∨
        (x.isDeleting = false ∧ (∃ access, b = .ok access) ∧ MeetsFlaw now v.spec.periods) := by
  have hconnection : ∀ {w a}, (⟨.connect w, a⟩ : collaborators.Exchange) ∈
      (⟨.fetch key, .ok (some x)⟩ :: front) ++ ⟨.connect v, b⟩ :: back ↔ w = v ∧ a = b :=
    connection_mem_iff (List.forall_mem_cons.mpr ⟨rfl, hfront⟩) hback
  constructor
  · intro h
    cases h with
    | missing h => cases h
    | refused h hc =>
      obtain ⟨-, rfl⟩ := hconnection.mp h
      exact Or.inl ⟨_, rfl, hc⟩
    | flawed hx hlive h hflaw =>
      obtain ⟨rfl, rfl⟩ := hconnection.mp h
      cases hx
      exact Or.inr ⟨hlive, ⟨_, rfl⟩, hflaw⟩
  · rintro (⟨c, rfl, hc⟩ | ⟨hlive, ⟨access, rfl⟩, hflaw⟩)
    · exact .refused (hconnection.mpr ⟨rfl, rfl⟩) hc
    · exact .flawed rfl hlive (hconnection.mpr ⟨rfl, rfl⟩) hflaw

theorem severity_ofCause (c : Cause) :
    (CycleError.ofCause c).severity = .critical ↔ c ≠ .cancelled := by
  cases c <;> simp [CycleError.ofCause, CycleError.critical, CycleError.recoverable]

theorem severity_recoverable (c : Cause) : (CycleError.recoverable c).severity ≠ .critical := by
  simp [CycleError.recoverable]

/-- What is done before the marker of a Scaler that goes away is released has one connection, or
none. -/
theorem Restored.not_hopeless {period : Option Period} {report : Report}
    (h : Restored key now x front period report) (hdeleting : x.isDeleting = true)
    (hback : ∀ e ∈ back, e.call.isConnection = false) :
    ¬ IsHopeless key now (⟨.fetch key, .ok (some x)⟩ :: (front ++ back)) := by
  cases h with
  | none h => exact not_isHopeless nofun (List.forall_mem_cons.mpr ⟨rfl, hback⟩)
  | pass h hr hpass =>
    have hresources := (onResources_setAll _ _ _ _).plays hpass
    have hafter := List.forall_mem_append.mpr
      ⟨fun e he => Call.not_connection_of_resource (hresources e he), hback⟩
    have hbefore : ∀ e ∈ ([] : List collaborators.Exchange), e.call.isConnection = false :=
      fun _ h => absurd h List.not_mem_nil
    intro hhopeless
    rcases (isHopeless_iff hbefore hafter).mp hhopeless with ⟨c, hc, -⟩ | ⟨hlive, -⟩
    · cases hc
    · cases hdeleting.symm.trans hlive

/-- A connection that was refused is hopeless unless it was cancelled. -/
theorem severity_of_refused {c : Cause} (hfront : ∀ e ∈ front, e.call.isConnection = false) :
    (CycleError.ofCause c).severity = .critical ↔
      IsHopeless key now (⟨.fetch key, .ok (some x)⟩ :: (front ++ [⟨.connect v, .error c⟩])) := by
  rw [severity_ofCause]
  refine Iff.trans ?_ (isHopeless_iff hfront fun _ h => absurd h List.not_mem_nil).symm
  constructor
  · exact fun hc => Or.inl ⟨c, rfl, hc⟩
  · rintro (⟨c', hc', hcancelled⟩ | ⟨-, ⟨access, haccess⟩, -⟩)
    · obtain rfl := Except.error.inj hc'
      exact hcancelled
    · cases haccess

/-- Once a live Scaler is connected, it is hopeless exactly when it meets a flawed entry. -/
theorem isHopeless_iff_meetsFlaw {access : Access} (hlive : x.isDeleting = false)
    (hfront : ∀ e ∈ front, e.call.isConnection = false)
    (hback : ∀ e ∈ back, e.call.isConnection = false) :
    IsHopeless key now
        (⟨.fetch key, .ok (some x)⟩ :: (front ++ ⟨.connect v, .ok access⟩ :: back)) ↔
      MeetsFlaw now v.spec.periods := by
  refine (isHopeless_iff hfront hback).trans ⟨?_, fun h => Or.inr ⟨hlive, ⟨access, rfl⟩, h⟩⟩
  rintro (⟨c, hc, -⟩ | ⟨-, -, hflaw⟩)
  · cases hc
  · exact hflaw

/-- **A failed cycle is critical exactly when it is hopeless.** -/
theorem severity_of_goes (hnow : now.isInner) (h : Goes s key now l (.error e))
    (hanswered : e.cause.fault? = none) : e.severity = .critical ↔ IsHopeless key now l := by
  have hnone : ∀ e ∈ ([] : List collaborators.Exchange), e.call.isConnection = false :=
    fun _ h => absurd h List.not_mem_nil
  cases h with
  | unread =>
    refine iff_of_false (severity_recoverable _) (not_isHopeless nofun ?_)
    exact List.forall_mem_singleton.mpr rfl
  | missing => exact iff_of_true rfl (.missing rfl)
  | departed hdeleting hmarked h =>
    cases h with
    | unconnected hrestore => exact severity_of_refused hnone
    | undecided hrestore he =>
      obtain ⟨r, hr, -⟩ := resolve_requested_ok hnow _ _
      cases he.symm.trans hr
    | kept hrestored hrelease =>
      exact iff_of_false (severity_recoverable _)
        (hrestored.not_hopeless hdeleting hrelease.not_connection)
  | unmarked hlive h =>
    refine iff_of_false (severity_recoverable _) (not_isHopeless nofun ?_)
    exact List.forall_mem_cons.mpr ⟨rfl, h.not_connection⟩
  | served hlive htries h =>
    have hfront := htries.not_connection
    cases h with
    | unconnected => exact severity_of_refused hfront
    | undecided h =>
      refine iff_of_true rfl ((isHopeless_iff_meetsFlaw hlive hfront hnone).mpr ?_)
      exact (meetsFlaw_iff hnow _).mpr ⟨_, _, h⟩
    | overlong h hdelay => cases hanswered
    | unrecorded h hidle hpass hrecord =>
      have hresources := (onResources_setAll _ _ _ _).plays hpass
      have hback := List.forall_mem_append.mpr
        ⟨fun e he => Call.not_connection_of_resource (hresources e he), hrecord.not_connection⟩
      refine iff_of_false (severity_recoverable _)
        (mt (isHopeless_iff_meetsFlaw hlive hfront hback).mp fun hflaw => ?_)
      obtain ⟨name, flaw, hinvalid⟩ := (meetsFlaw_iff hnow _).mp hflaw
      cases h.symm.trans hinvalid

/-! ## Before a critical failure -/

/-- What a cycle calls for until it is connected: it reads its Scaler, puts the marker on it and
asks for a connection. -/
inductive IsOpening : Call → Prop where
  | fetch {k} : IsOpening (.fetch k)
  | mark {copy} : IsOpening (Change.addFinalizer.write copy)
  | connect {y} : IsOpening (.connect y)

theorem IsOpening.quiet {c : Call} (h : IsOpening c) :
    c.isResource = false ∧ c.isRecording = false := by
  cases h <;> exact ⟨rfl, rfl⟩

theorem isOpening_of_tries {answer : Except Cause Scaler}
    (h : Change.addFinalizer.Tries key x l answer) : ∀ e ∈ l, IsOpening e.call := by
  intro e he
  rcases h.calls e he with ⟨other, hcall⟩ | hcall
  · rw [hcall]
    exact .mark
  · rw [hcall]
    exact .fetch

/-- **A critical failure is raised before any resource is asked for.** -/
theorem isOpening_of_critical (h : Goes s key now l (.error e)) (he : e.severity = .critical) :
    ∀ m ∈ l, IsOpening m.call := by
  have hconnect : ∀ {v} {a : Except Cause Access}, ∀ m ∈ [(⟨.connect v, a⟩ :
      collaborators.Exchange)], IsOpening m.call :=
    List.forall_mem_singleton.mpr .connect
  cases h with
  | unread => exact absurd he (severity_recoverable _)
  | missing => exact List.forall_mem_singleton.mpr .fetch
  | departed hdeleting hmarked h =>
    cases h with
    | unconnected hrestore => exact List.forall_mem_cons.mpr ⟨.fetch, hconnect⟩
    | undecided hrestore he => exact List.forall_mem_cons.mpr ⟨.fetch, hconnect⟩
    | kept hrestored hrelease => exact absurd he (severity_recoverable _)
  | unmarked hlive h => exact absurd he (severity_recoverable _)
  | served hlive htries h =>
    refine List.forall_mem_cons.mpr ⟨.fetch, ?_⟩
    have hfront := isOpening_of_tries htries
    cases h with
    | unconnected => exact List.forall_mem_append.mpr ⟨hfront, hconnect⟩
    | undecided h => exact List.forall_mem_append.mpr ⟨hfront, hconnect⟩
    | overlong h hdelay => exact List.forall_mem_append.mpr ⟨hfront, hconnect⟩
    | unrecorded h hidle hpass hrecord => exact absurd he (severity_recoverable _)

/-! ## Causes -/

/-- Where the cause of a failed cycle comes from: a call was answered with it, the Scaler is gone, a
live Scaler has a flawed entry, or the wait for its period to be over is too long to be told. -/
inductive Blames (s : Settings) (now : Instant) (l : List collaborators.Exchange) : Cause → Prop
    where
  | answered {call c} (h : (⟨call, .error c⟩ : collaborators.Exchange) ∈ l)
    (hcall : call.isResource = false) : Blames s now l c
  | gone {k : Key} : Blames s now l (.notFound k.text)
  | flawed {y access name flaw}
    (hconnect : (⟨.connect y, .ok access⟩ : collaborators.Exchange) ∈ l)
    (h : resolve y.spec.periods y.currentPeriod false now = .error (.invalid name flaw)) :
    Blames s now l (.period (.invalid name flaw))
  | overlong {y access p f}
    (hconnect : (⟨.connect y, .ok access⟩ : collaborators.Exchange) ∈ l)
    (h : resolve y.spec.periods y.currentPeriod false now = .error (.alreadyRun p))
    (hdelay : p.rerunDelay now s.grace = .error f) : Blames s now l (.fault f)

/-- What a change fails for is an answer, or its Scaler is gone. -/
theorem blames_of_tries {c : Change} {k : Key} {cause : Cause} (h : c.Tries k x back (.error cause))
    (hback : ∀ m ∈ back, m ∈ l) : Blames s now l cause := by
  rcases h.cause with rfl | ⟨call, hcall⟩
  · exact .gone
  · refine .answered (hback _ hcall) ?_
    rcases h.calls _ hcall with ⟨other, hwrite⟩ | hread
    · obtain rfl : call = c.write other := hwrite
      cases c <;> rfl
    · obtain rfl : call = .fetch k := hread
      rfl

/-- **Where the cause of a failed cycle comes from.** -/
theorem cause_of_goes (hnow : now.isInner) (h : Goes s key now l (.error e)) :
    Blames s now l e.cause := by
  have hcause : ∀ c, (CycleError.ofCause c).cause = c := by
    intro c
    cases c <;> rfl
  cases h with
  | unread => exact .answered (List.mem_singleton.mpr rfl) rfl
  | missing => exact .gone
  | departed hdeleting hmarked h =>
    cases h with
    | unconnected hrestore =>
      rw [hcause]
      exact .answered (List.mem_cons_of_mem _ (List.mem_singleton.mpr rfl)) rfl
    | undecided hrestore he =>
      obtain ⟨r, hr, -⟩ := resolve_requested_ok hnow _ _
      cases he.symm.trans hr
    | kept hrestored hrelease =>
      exact blames_of_tries hrelease fun m hm => List.mem_cons_of_mem _ (List.mem_append_right _ hm)
  | unmarked hlive h => exact blames_of_tries h fun m hm => List.mem_cons_of_mem _ hm
  | served hlive htries h =>
    cases h with
    | unconnected =>
      rw [hcause]
      exact .answered (List.mem_cons_of_mem _
        (List.mem_append_right _ (List.mem_singleton.mpr rfl))) rfl
    | undecided h =>
      exact .flawed (List.mem_cons_of_mem _
        (List.mem_append_right _ (List.mem_singleton.mpr rfl))) h
    | overlong h hdelay =>
      exact .overlong (List.mem_cons_of_mem _
        (List.mem_append_right _ (List.mem_singleton.mpr rfl))) h hdelay
    | unrecorded h hidle hpass hrecord =>
      exact blames_of_tries hrecord fun m hm => List.mem_cons_of_mem _
        (List.mem_append_right _ (List.mem_cons_of_mem _ (List.mem_append_right _ hm)))

end Hopeless

end Cycle

/-! ## Under interference -/

/-- Whether a cause is known only within a cycle: no collaborator gives it. -/
def Cause.isInternal : Cause → Bool
  | missingState _ => true
  | period _ => true
  | c => c.fault?.isSome

theorem Cause.isInternal_of_fault {c : Cause} {f : Fault} (h : c.fault? = some f) :
    c.isInternal = true := by
  cases c <;> first | rfl | simp [isInternal, h]

namespace Interference

/-- No call is refused for a cause that is known only within a cycle. -/
def RefusesPlainly (i : Interference World) : Prop :=
  ∀ n c, i.refuse n = some c → c.isInternal = false

/-- Nobody else writes the status under a key, or puts a Scaler there or takes it away. -/
def KeepsStatus (key : Key) (i : Interference World) : Prop :=
  ∀ n w, ((i.change n w).store.stored key).map Scaler.status =
    (w.store.stored key).map Scaler.status

end Interference

section Interference

variable {i : Interference World} {settings : Settings} {key : Key} {now : Instant}
  {s : Nat × World}

theorem write_error {copy : Scaler} {change : Scaler → Scaler} {store : Memory.Store} {c : Cause}
    (h : (store.write copy change).1 = .error c) : c.isInternal = false := by
  unfold Memory.Store.write at h
  simp only at h
  split at h
  · obtain rfl := Except.error.inj h
    rfl
  · split at h
    · obtain rfl := Except.error.inj h
      rfl
    · split at h
      · obtain rfl := Except.error.inj h
        rfl
      · cases h

/-- What a world answers with is no internal cause, but for resources. -/
theorem answer_error {call : Call} (hcall : call.isResource = false) {w : World} {c : Cause}
    (h : (World.answer call w).1 = .error c) : c.isInternal = false := by
  cases call with
  | fetch k =>
    simp only [World.answer, Memory.Store.fetch] at h
    split at h
    · obtain rfl := Except.error.inj h
      rfl
    · cases h
  | putFinalizers copy finalizers => exact write_error h
  | putStatus copy status => exact write_error h
  | connect x =>
    simp only [World.answer] at h
    split at h
    · cases h
    · obtain rfl := Except.error.inj h
      rfl
  | _ => cases hcall

/-- No call of a cycle fails for an internal cause, but for resources. -/
theorem exchanges_error (hi : i.RefusesPlainly) {call : Call} (hcall : call.isResource = false)
    {c : Cause} (h : (⟨call, .error c⟩ : collaborators.Exchange) ∈
      Cycle.exchangesUnder i settings key now s) : c.isInternal = false := by
  obtain ⟨⟨n, w⟩, -, hanswer⟩ := Program.answered_of_mem (fun _ => True)
    (fun _ _ _ => trivial) trivial h
  simp only [Interference.around] at hanswer
  split at hanswer
  · rename_i e hrefused
    obtain rfl := Except.error.inj hanswer
    exact hi n c hrefused
  · exact answer_error hcall hanswer.symm

/-- Until a cycle is connected, it leaves the status as it is. -/
theorem status_of_isOpening (hi : i.KeepsStatus key) {c : Call} (hc : Cycle.IsOpening c) :
    (heldUnder key (i.around World.answer c s).2).map Scaler.status =
      (heldUnder key s).map Scaler.status := by
  have hchanged := hi s.1 s.2
  rcases i.around_cases (h := World.answer) c s.1 s.2 with ⟨e, hcall⟩ | hcall
  · rw [hcall]
    exact hchanged
  · rw [hcall]
    refine Eq.trans ?_ hchanged
    cases hc with
    | fetch => rfl
    | connect => rfl
    | @mark copy =>
      have hwrite := Memory.Store.written_write copy (Change.addFinalizer.edit copy)
        (i.change s.1 s.2).store
      change ((((i.change s.1 s.2).store.write copy (Change.addFinalizer.edit copy)).2.stored
        key).map Scaler.status) = _
      generalize (i.change s.1 s.2).store.write copy (Change.addFinalizer.edit copy) = r at hwrite ⊢
      cases hwrite with
      | refused hversion hsame => rw [hsame key]
      | @made x _ hmade =>
        by_cases hkey : key = copy.key
        · -- the marker is among the finalizers, so the object is not released by this write
          have hstays : Memory.Store.remains (Memory.Store.withVersion
              ((i.change s.1 s.2).store.version + 1) (Change.addFinalizer.edit copy x)) =
              some (Memory.Store.withVersion ((i.change s.1 s.2).store.version + 1)
                (Change.addFinalizer.edit copy x)) := by
            simp [Memory.Store.remains, Memory.Store.isReleased, Memory.Store.withVersion,
              Change.edit, Scaler.finalizers]
          rw [hkey, hmade.held_eq, hmade.stored_eq, hstays]
          rfl
        · rw [hmade.others_eq key hkey]

/-- **How failed cycles are classified**, whatever happens in between. A failed cycle is critical
exactly when its Scaler does not exist, the connection was refused for another reason than
cancellation, or a flawed entry of a live Scaler comes before any open one. A critical failure comes
before any resource is asked for and before a status is written, so the status is as it was if
nobody else wrote it. No cycle fails because of a missing state or because a period has run. A cycle
has no answer at all only when the time zone text of the entry that decides is cut inside a
character, or when the wait for the next cycle is longer than a span can be. -/
theorem failure_classified (hnow : now.isInner) (hi : i.RefusesPlainly) {e : CycleError}
    (he : (Cycle.runUnder i settings key now s).1 = .error e) :
    (e.cause.fault? = none → (e.severity = .critical ↔
      Cycle.IsHopeless key now (Cycle.exchangesUnder i settings key now s))) ∧
    (e.severity = .critical →
      (∀ m ∈ Cycle.exchangesUnder i settings key now s,
        m.call.isResource = false ∧ m.call.isRecording = false) ∧
      (i.KeepsStatus key →
        (heldUnder key (Cycle.runUnder i settings key now s).2).map Scaler.status =
          (heldUnder key s).map Scaler.status)) ∧
    (∀ part, e.cause ≠ .missingState part) ∧ (∀ p, e.cause ≠ .period (.alreadyRun p)) ∧
    (∀ f, e.cause.fault? = some f → ∃ v access,
      (⟨.connect v, .ok access⟩ : collaborators.Exchange) ∈
        Cycle.exchangesUnder i settings key now s ∧
      ((∃ before d after, v.spec.periods = before ++ d :: after ∧
          (∀ e ∈ before, Declaration.IsClosed now e) ∧ Zone.CutsCharacter d.timing.timeZone) ∨
        ∃ p, resolve v.spec.periods v.currentPeriod false now = .error (.alreadyRun p) ∧
          p.rerunDelay now settings.grace = .error f)) := by
  have hgoes := Cycle.goes_run (i.around World.answer) settings key now s
  change Cycle.Goes settings key now (Cycle.exchangesUnder i settings key now s)
    (Cycle.runUnder i settings key now s).1 at hgoes
  rw [he] at hgoes
  have hcause := Cycle.cause_of_goes hnow hgoes
  refine ⟨Cycle.severity_of_goes hnow hgoes, fun hcritical => ?_, fun part hpart => ?_,
    fun p hp => ?_, fun f hf => ?_⟩
  · have hopening := Cycle.isOpening_of_critical hgoes hcritical
    refine ⟨fun m hm => (hopening m hm).quiet, fun hstatus => ?_⟩
    exact Program.run_keeps
      (fun t => (heldUnder key t).map Scaler.status = (heldUnder key s).map Scaler.status)
      (fun c hc t ht => (status_of_isOpening hstatus hc).trans ht) hopening rfl
  · rw [hpart] at hcause
    cases hcause with
    | answered h hcall => cases exchanges_error hi hcall h
  · rw [hp] at hcause
    cases hcause with
    | answered h hcall => cases exchanges_error hi hcall h
  · generalize e.cause = cause at hcause hf
    cases hcause with
    | answered h hcall =>
      have hplain := exchanges_error hi hcall h
      rw [Cause.isInternal_of_fault hf] at hplain
      cases hplain
    | gone => cases hf
    | flawed hconnect h =>
      obtain ⟨-, hcut⟩ := (resolve_fault_iff hnow).mp ⟨_, f, h, hf⟩
      exact ⟨_, _, hconnect, Or.inl hcut⟩
    | overlong hconnect h hdelay =>
      obtain rfl := Option.some.inj hf
      exact ⟨_, _, hconnect, Or.inr ⟨_, h, hdelay⟩⟩

end Interference

/-! ## A mistyped weekday -/

/-- A night on a day that no week has. -/
def mistyped : Declaration where
  name := "night"
  target := .down
  timing := .recurring
    { days := ["funday"], startTime := "22:00", endTime := "06:00", once := false,
      timeZone := none }

/-- A world with one Scaler, which has this period. -/
def mistypedWorld : World :=
  let plain := Scaler.plain "default" "nightly"
  { World.empty (.leadsTo .kubernetes) with
    store := (Memory.Store.empty.insert { plain with
      spec := { plain.spec with periods := [mistyped] } }).2 }

/-- Its cycle is hopeless, and asks for no resource. -/
theorem mistyped_hopeless :
    Cycle.IsHopeless ⟨"default", "nightly"⟩ (Instant.ofHour 19877 10)
      (Cycle.exchangesUnder .calm .standard ⟨"default", "nightly"⟩ (Instant.ofHour 19877 10)
        (0, mistypedWorld)) ∧
    ∀ m ∈ Cycle.exchangesUnder .calm .standard ⟨"default", "nightly"⟩ (Instant.ofHour 19877 10)
      (0, mistypedWorld), m.call.isResource = false ∧ m.call.isRecording = false := by
  have he : (Cycle.runUnder .calm .standard ⟨"default", "nightly"⟩ (Instant.ofHour 19877 10)
      (0, mistypedWorld)).1 =
        .error (.critical (.period (.invalid "night" (.unknownWeekday "funday")))) := by
    decide +kernel
  have hnow : (Instant.ofHour 19877 10).isInner := by decide
  obtain ⟨hclass, hquiet, -⟩ := failure_classified (i := .calm) hnow (fun _ _ h => nomatch h) he
  exact ⟨(hclass rfl).mp rfl, (hquiet rfl).1⟩

end PeriodScaler
