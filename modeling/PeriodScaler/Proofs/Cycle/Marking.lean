import PeriodScaler.Proofs.Cycle.Failures

/-!
# The marker comes first

Cleanup is owed for whatever a cycle does to resources, so a Scaler has its marker before the cycle
turns to a provider. A cycle knows of the marker by an exchange with the store: a read of a marked
version, or a write of finalizers that was made (`ShowsMarker`). Both ways out of the attempts to
put it on, a copy that has it already and a write, have such an exchange behind them, and the ways
that have none end the cycle.

The store and whoever else writes it put no Scaler under the key of another one; then what is read
under the key is of that key (`Faithful`).

* **`Change.Tries.shows`**: a marker that was put on has been shown.
* **`shown_before_provider`**: no call for a provider comes before the marker was shown.
* **`unserved_of_unmarked`**: a cycle whose marker cannot be put on ends there.
* **`marked_before_provider`**: the order of the calls, and what comes of such a cycle.
-/

namespace PeriodScaler

open Memory (World Store)

/-! ## What is shown -/

/-- Whether a call is for a provider: for a connection to it, or for its resources. -/
def Call.isProvider (c : Call) : Bool :=
  c.isConnection || c.isResource

theorem Call.not_provider_of_finalizing {c : Call} (h : c.isFinalizing = true) :
    c.isProvider = false := by
  cases c <;> first | rfl | cases h

/-- An exchange shows a version of the Scaler with its marker: it was read, or it is what a write of
finalizers has left. -/
inductive ShowsMarker (key : Key) : collaborators.Exchange → Prop where
  | read {x} (hkey : x.key = key) (h : x.isMarked = true) :
    ShowsMarker key ⟨.fetch key, .ok (some x)⟩
  | written {copy finalizers x} (hkey : x.key = key) (h : x.isMarked = true) :
    ShowsMarker key ⟨.putFinalizers copy finalizers, .ok x⟩

/-- An exchange with a store that holds nothing else under the key: what is read is of the key, and
so is what a write leaves, with the finalizers that were written. -/
structure Faithful (key : Key) (e : collaborators.Exchange) : Prop where
  read : ∀ x, e = ⟨.fetch key, .ok (some x)⟩ → x.key = key
  written : ∀ copy finalizers x, e = ⟨.putFinalizers copy finalizers, .ok x⟩ → copy.key = key →
    x.key = key ∧ x.finalizers = finalizers

namespace Change.Tries

variable {key : Key} {x v : Scaler} {l : List collaborators.Exchange}

theorem finalizing {answer : Except Cause Scaler} (h : addFinalizer.Tries key x l answer) :
    ∀ e ∈ l, e.call.isFinalizing = true := by
  intro e he
  rcases h.calls e he with ⟨other, hcall⟩ | hcall
  · rw [hcall]
    rfl
  · rw [hcall]
    rfl

/-- **A marker that was put on has been shown**, or it was there. By induction on the attempts, each
on a copy of this key. -/
theorem shows (h : addFinalizer.Tries key x l (.ok v)) (hx : x.key = key)
    (hl : ∀ e ∈ l, Faithful key e) : x.isMarked = true ∨ ∃ m ∈ l, ShowsMarker key m := by
  generalize hanswer : (Except.ok v : Except Cause Scaler) = answer at h
  induction h with
  | satisfied h => exact Or.inl h
  | @written copy y h =>
    obtain ⟨hkey, hfinalizers⟩ := (hl _ (List.mem_singleton.mpr rfl)).written _ _ _ rfl hx
    refine Or.inr ⟨_, List.mem_singleton.mpr rfl, .written hkey ?_⟩
    rw [Scaler.isMarked, hfinalizers, List.contains_iff_mem]
    exact List.mem_append_right _ (List.mem_singleton.mpr rfl)
  | refused h => cases hanswer
  | unread h he => cases hanswer
  | gone h he => cases hanswer
  | @again copy e latest rest answer h he hrest ih =>
    rw [List.forall_mem_cons, List.forall_mem_cons] at hl
    have hlatest : latest.key = key := hl.2.1.read latest rfl
    obtain hmarked | ⟨m, hm, hshows⟩ := ih hlatest hl.2.2 hanswer
    · exact Or.inr ⟨_, List.mem_cons_of_mem _ List.mem_cons_self, .read hlatest hmarked⟩
    · exact Or.inr ⟨m, List.mem_cons_of_mem _ (List.mem_cons_of_mem _ hm), hshows⟩

/-- A marker that could not be put on was not there, and has not been shown. -/
theorem not_shows {c : Cause} (h : addFinalizer.Tries key x l (.error c)) :
    x.isMarked = false ∧ ∀ m ∈ l, ¬ ShowsMarker key m := by
  have hrefused : ∀ copy e, ¬ ShowsMarker key (addFinalizer.exchange copy (.error e)) := by
    intro copy e hshows
    cases hshows
  generalize hanswer : (Except.error c : Except Cause Scaler) = answer at h
  induction h with
  | satisfied h => cases hanswer
  | written h => cases hanswer
  | refused h => exact ⟨h, List.forall_mem_singleton.mpr (hrefused _ _)⟩
  | unread h he =>
    exact ⟨h, List.forall_mem_cons.mpr ⟨hrefused _ _, List.forall_mem_singleton.mpr nofun⟩⟩
  | gone h he =>
    exact ⟨h, List.forall_mem_cons.mpr ⟨hrefused _ _, List.forall_mem_singleton.mpr nofun⟩⟩
  | again h he hrest ih =>
    obtain ⟨hbare, hrest⟩ := ih hanswer
    refine ⟨h, List.forall_mem_cons.mpr ⟨hrefused _ _, List.forall_mem_cons.mpr ⟨?_, hrest⟩⟩⟩
    intro hshows
    cases hshows with
    | read hkey hmarked => cases hbare.symm.trans hmarked

end Change.Tries

/-! ## The order of calls -/

/-- What comes before something that a front part does not have includes the front part. -/
theorem mem_before {α : Type} {P : α → Prop} (front : List α) {back before after : List α} {a : α}
    (hsplit : front ++ back = before ++ a :: after) (hfront : ∀ m ∈ front, ¬ P m) (ha : P a) :
    ∀ m ∈ front, m ∈ before := by
  intro m hm
  rcases List.append_eq_append_iff.mp hsplit with ⟨between, rfl, -⟩ | ⟨rest, hrest, hback⟩
  · exact List.mem_append_left _ hm
  · cases rest with
    | nil =>
      rw [List.append_nil] at hrest
      exact hrest ▸ hm
    | cons b rest =>
      obtain ⟨rfl, -⟩ := List.cons.inj hback
      exact absurd ha (hfront a (hrest ▸ List.mem_append_right _ List.mem_cons_self))

namespace Cycle

variable {s : Settings} {key : Key} {now : Instant} {l before after : List collaborators.Exchange}
  {result : Except CycleError Outcome} {e : collaborators.Exchange}

/-- **No call for a provider comes before the marker was shown.** -/
theorem shown_before_provider (h : Goes s key now l result) (hl : ∀ e ∈ l, Faithful key e)
    (hsplit : l = before ++ e :: after) (he : e.call.isProvider = true) :
    ∃ m ∈ before, ShowsMarker key m := by
  have hmem : e ∈ l := hsplit ▸ List.mem_append_right before List.mem_cons_self
  have hquiet : ∀ {front : List collaborators.Exchange},
      (∀ m ∈ front, m.call.isFinalizing = true) → ∀ m ∈ front, ¬ m.call.isProvider = true := by
    intro front hfront m hm
    rw [Call.not_provider_of_finalizing (hfront m hm)]
    exact Bool.false_ne_true
  have hread : ∀ {a : Except Cause (Option Scaler)}, ∀ m ∈ [(⟨.fetch key, a⟩ :
      collaborators.Exchange)], m.call.isFinalizing = true :=
    List.forall_mem_singleton.mpr rfl
  cases h with
  | unread => exact absurd he (hquiet hread e hmem)
  | missing => exact absurd he (hquiet hread e hmem)
  | ignored hdeleting hbare => exact absurd he (hquiet hread e hmem)
  | @departed x rest _ hdeleting hmarked h =>
    have hkey : x.key = key := (hl _ List.mem_cons_self).read x rfl
    exact ⟨_, mem_before [_] hsplit (hquiet hread) he _ List.mem_cons_self,
      .read hkey hmarked⟩
  | unmarked hlive h =>
    exact absurd he (hquiet (List.forall_mem_cons.mpr ⟨rfl, h.finalizing⟩) e hmem)
  | @served x v writes rest _ hlive h hserves =>
    have hkey : x.key = key := (hl _ List.mem_cons_self).read x rfl
    have hbefore := mem_before (_ :: writes) hsplit
      (hquiet (List.forall_mem_cons.mpr ⟨rfl, h.finalizing⟩)) he
    rw [hkey] at h
    rcases h.shows hkey fun m hm => hl m (List.mem_cons_of_mem _ (List.mem_append_left _ hm)) with
      hmarked | ⟨m, hm, hshows⟩
    · exact ⟨_, hbefore _ List.mem_cons_self, .read hkey hmarked⟩
    · exact ⟨m, hbefore m (List.mem_cons_of_mem _ hm), hshows⟩

end Cycle

/-! ## Under interference -/

/-- Nobody else changes the resources. -/
def Interference.KeepsResources (i : Interference World) : Prop :=
  ∀ n w, (i.change n w).workloads = w.workloads ∧ (i.change n w).instances = w.instances

section Interference

variable {i : Interference World} {settings : Settings} {key : Key} {now : Instant}
  {s : Nat × World}

/-- Whatever is called for, the store puts nothing else under a key. -/
theorem isOf_around (hi : i.KeepsKey key) (c : Call) {t : Nat × World}
    (ht : IsOf key (heldUnder key t)) :
    IsOf key (heldUnder key (i.around World.answer c t).2) := by
  have hchanged := hi t.1 t.2 ht
  have hwrite : ∀ (copy : Scaler) (change : Scaler → Scaler), (∀ x, (change x).key = x.key) →
      IsOf key (((i.change t.1 t.2).store.write copy change).2.stored key) := by
    intro copy change hchange x hx
    have hwritten := Store.written_write copy change (i.change t.1 t.2).store
    generalize (i.change t.1 t.2).store.write copy change = r at hwritten hx
    cases hwritten with
    | refused hversion hsame => exact hchanged x (hsame key ▸ hx)
    | @made y _ hmade =>
      by_cases hkey : key = copy.key
      · rw [hkey, hmade.held_eq] at hx
        obtain rfl := Store.eq_of_remains hx
        exact (hchange y).trans (hchanged y (hkey ▸ hmade.stored_eq))
      · exact hchanged x (hmade.others_eq key hkey ▸ hx)
  rcases i.around_cases (h := World.answer) c t.1 t.2 with ⟨e, hcall⟩ | hcall
  · rw [hcall]
    exact hchanged
  · rw [hcall]
    cases c with
    | putFinalizers copy finalizers => exact hwrite copy _ fun _ => rfl
    | putStatus copy status => exact hwrite copy _ fun _ => rfl
    | _ => exact hchanged

/-- The exchanges of a run are those of a store that holds nothing else under the key. -/
theorem faithful_exchanges (hi : i.KeepsKey key) (hs : IsOf key (heldUnder key s)) :
    ∀ e ∈ Cycle.exchangesUnder i settings key now s, Faithful key e := by
  intro e he
  obtain ⟨t, ht, hanswer⟩ := Program.answered_of_mem (fun t => IsOf key (heldUnder key t))
    (fun c t ht => isOf_around hi c ht) hs he
  constructor
  · rintro x rfl
    exact hi t.1 t.2 ht x (fetch_answer hanswer.symm)
  · rintro copy finalizers x rfl hkey
    rcases i.around_cases (h := World.answer) (.putFinalizers copy finalizers) t.1 t.2 with
      ⟨e, hcall⟩ | hcall
    · rw [hcall] at hanswer
      cases hanswer
    · rw [hcall] at hanswer
      obtain ⟨y, rfl, hchanged⟩ := Store.changed_of_write hanswer.symm
      exact ⟨hi t.1 t.2 ht y (hkey ▸ hchanged.stored_eq), rfl⟩

/-- Calls that only read Scalers and write finalizers leave the resources as they are. -/
theorem resources_of_finalizing (hi : i.KeepsResources) {c : Call} (hc : c.isFinalizing = true)
    (t : Nat × World) :
    (i.around World.answer c t).2.2.workloads = t.2.workloads ∧
      (i.around World.answer c t).2.2.instances = t.2.instances := by
  have hchanged := hi t.1 t.2
  rcases i.around_cases (h := World.answer) c t.1 t.2 with ⟨e, hcall⟩ | hcall
  · rw [hcall]
    exact hchanged
  · rw [hcall]
    cases c with
    | fetch k => exact hchanged
    | putFinalizers copy finalizers => exact hchanged
    | _ => cases hc

/-- So does a run of such calls. -/
theorem resources_of_run {α : Type} (hi : i.KeepsResources) {p : Program collaborators α}
    (hp : ∀ e ∈ p.transcript (i.around World.answer) s, e.call.isFinalizing = true) :
    (p.run (i.around World.answer) s).2.2.workloads = s.2.workloads ∧
      (p.run (i.around World.answer) s).2.2.instances = s.2.instances := by
  refine Program.run_keeps (Q := fun c : Call => c.isFinalizing = true)
    (fun u : Nat × World => u.2.workloads = s.2.workloads ∧ u.2.instances = s.2.instances)
    (fun c hc u hu => ?_) hp ⟨rfl, rfl⟩
  obtain ⟨hworkloads, hinstances⟩ := resources_of_finalizing hi hc u
  exact ⟨hworkloads.trans hu.1, hinstances.trans hu.2⟩

/-- The first exchange of a cycle tells its first call. -/
theorem fetch_of_head {held : Option Scaler}
    (h : (Cycle.exchangesUnder i settings key now s).head? = some ⟨.fetch key, .ok held⟩) :
    i.around World.answer (.fetch key) s = (.ok held, s.1 + 1, i.change s.1 s.2) := by
  rw [Cycle.exchangesUnder, Cycle.reconcile_eq_course] at h
  have hfirst : (⟨.fetch key, (i.around World.answer (.fetch key) s).1⟩ :
      collaborators.Exchange) = ⟨.fetch key, .ok held⟩ := Option.some.inj h
  exact Prod.ext (eq_of_heq (Interface.Exchange.mk.inj hfirst).2) fetch_state

section Found

variable {x v : Scaler} {c : Cause} {t : Nat × World}
  (hfetch : i.around World.answer (.fetch key) s = (.ok (some x), t))
  (hlive : x.isDeleting = false) (hkey : x.key = key)

include hfetch hlive hkey

/-- A cycle that has put the marker on its Scaler has an exchange that shows it. -/
theorem shown_of_marked
    (hfaithful : ∀ e ∈ Cycle.exchangesUnder i settings key now s, Faithful key e)
    (hadded : ((Change.addFinalizer.apply x settings.attempts).run
      (i.around World.answer) t).1 = .ok v) :
    ∃ m ∈ Cycle.exchangesUnder i settings key now s, ShowsMarker key m := by
  have htries := Change.tries_apply (Program.plays_run (h := i.around World.answer)
    (Change.addFinalizer.apply x settings.attempts) t)
  rw [hkey, hadded] at htries
  have hexchanges : Cycle.exchangesUnder i settings key now s = _ :=
    Cycle.transcript_of_found hfetch
  rw [Cycle.attend_live hlive, Program.transcript_bind] at hexchanges
  rw [hexchanges] at hfaithful ⊢
  rw [List.forall_mem_cons, List.forall_mem_append] at hfaithful
  rcases htries.shows hkey hfaithful.2.1 with hmarked | ⟨m, hm, hshows⟩
  · exact ⟨_, List.mem_cons_self, .read hkey hmarked⟩
  · exact ⟨m, List.mem_cons_of_mem _ (List.mem_append_left _ hm), hshows⟩

/-- A cycle that cannot put the marker on its Scaler ends there: it has only read Scalers and
written finalizers, and no exchange shows the marker. -/
theorem unserved_of_unmarked (now : Instant)
    (hadded : ((Change.addFinalizer.apply x settings.attempts).run
      (i.around World.answer) t).1 = .error c) :
    (Cycle.runUnder i settings key now s).1 = .error (.recoverable c) ∧
      ∀ m ∈ Cycle.exchangesUnder i settings key now s,
        m.call.isFinalizing = true ∧ ¬ ShowsMarker key m := by
  have htries := Change.tries_apply (Program.plays_run (h := i.around World.answer)
    (Change.addFinalizer.apply x settings.attempts) t)
  rw [hkey] at htries
  have hexchanges : Cycle.exchangesUnder i settings key now s = _ :=
    Cycle.transcript_of_found hfetch
  have hrun : Cycle.runUnder i settings key now s = _ := Cycle.run_of_found hfetch
  rw [Cycle.attend_live hlive, Program.transcript_bind] at hexchanges
  rw [Cycle.attend_live hlive, Program.run_bind] at hrun
  rw [hexchanges, hrun]
  generalize (Change.addFinalizer.apply x settings.attempts).run (i.around World.answer) t = added
    at hadded htries ⊢
  obtain ⟨answer, after⟩ := added
  obtain rfl : answer = .error c := hadded
  obtain ⟨hbare, hnone⟩ := htries.not_shows
  rw [Program.transcript_done, List.append_nil]
  refine ⟨rfl, List.forall_mem_cons.mpr
    ⟨⟨rfl, fun hshows => ?_⟩, fun m hm => ⟨htries.finalizing m hm, hnone m hm⟩⟩⟩
  cases hshows with
  | read hkey hmarked => cases hbare.symm.trans hmarked

end Found

/-- **The marker comes first**, whatever happens in between. Every connection and every call for
resources comes after an exchange that shows the Scaler with its marker. No such exchange is made
for a live Scaler exactly when the marker cannot be put on it, whatever the cause; then the cycle
ends with that cause, to be tried again soon, it has called for no provider, and the resources are
as they were if nobody else changed them. -/
theorem marked_before_provider (hi : i.KeepsKey key) (hs : IsOf key (heldUnder key s)) :
    (∀ before e after, Cycle.exchangesUnder i settings key now s = before ++ e :: after →
      e.call.isProvider = true → ∃ m ∈ before, ShowsMarker key m) ∧
    ∀ x, (Cycle.exchangesUnder i settings key now s).head? = some ⟨.fetch key, .ok (some x)⟩ →
      x.isDeleting = false →
      ((∀ m ∈ Cycle.exchangesUnder i settings key now s, ¬ ShowsMarker key m) ↔
        ∃ c, ((Change.addFinalizer.apply x settings.attempts).run (i.around World.answer)
          (s.1 + 1, i.change s.1 s.2)).1 = .error c) ∧
      ∀ c, ((Change.addFinalizer.apply x settings.attempts).run (i.around World.answer)
          (s.1 + 1, i.change s.1 s.2)).1 = .error c →
        (Cycle.runUnder i settings key now s).1 = .error (.recoverable c) ∧
        (∀ m ∈ Cycle.exchangesUnder i settings key now s, m.call.isProvider = false) ∧
        (i.KeepsResources →
          (Cycle.runUnder i settings key now s).2.2.workloads = s.2.workloads ∧
          (Cycle.runUnder i settings key now s).2.2.instances = s.2.instances) := by
  have hfaithful : ∀ e ∈ Cycle.exchangesUnder i settings key now s, Faithful key e :=
    faithful_exchanges hi hs
  refine ⟨fun before e after hsplit he => Cycle.shown_before_provider
    (Cycle.goes_run (i.around World.answer) settings key now s) hfaithful hsplit he, ?_⟩
  intro x hx hlive
  have hfetch := fetch_of_head hx
  have hkey : x.key = key := hi s.1 s.2 hs x (fetch_answer (congrArg Prod.fst hfetch))
  refine ⟨⟨fun hnone => ?_, ?_⟩, fun c hc => ?_⟩
  · cases hadded : ((Change.addFinalizer.apply x settings.attempts).run (i.around World.answer)
      (s.1 + 1, i.change s.1 s.2)).1 with
    | error c => exact ⟨c, rfl⟩
    | ok v =>
      obtain ⟨m, hm, hshows⟩ := shown_of_marked hfetch hlive hkey hfaithful hadded
      exact absurd hshows (hnone m hm)
  · rintro ⟨c, hc⟩ m hm
    exact ((unserved_of_unmarked hfetch hlive hkey now hc).2 m hm).2
  · obtain ⟨hresult, hcalls⟩ := unserved_of_unmarked hfetch hlive hkey now hc
    exact ⟨hresult, fun m hm => Call.not_provider_of_finalizing (hcalls m hm).1,
      fun hothers => resources_of_run hothers fun m hm => (hcalls m hm).1⟩

end Interference

/-! ## A marker that cannot be put on -/

/-- A world with one Scaler, where more writes meet a conflict than a cycle attempts. -/
def contested : World :=
  { World.empty (.leadsTo .kubernetes) with
    store := { (Store.empty.insert (.plain "default" "nightly")).2 with conflicts := 9 } }

/-- Its cycle ends with the last conflict and has called for no provider. -/
theorem contested_unserved :
    (Cycle.runUnder .calm .standard ⟨"default", "nightly"⟩ (Instant.ofHour 19877 10)
      (0, contested)).1 = .error (.recoverable (.conflict "default/nightly")) ∧
    ∀ m ∈ Cycle.exchangesUnder .calm .standard ⟨"default", "nightly"⟩ (Instant.ofHour 19877 10)
      (0, contested), m.call.isProvider = false := by
  have hheld : heldUnder ⟨"default", "nightly"⟩ (0, contested) =
      some (Store.withVersion 1 (.plain "default" "nightly")) := by decide +kernel
  have hof : IsOf ⟨"default", "nightly"⟩ (heldUnder ⟨"default", "nightly"⟩ (0, contested)) := by
    intro x hx
    obtain rfl := Option.some.inj (hheld.symm.trans hx)
    rfl
  have hfetch : Interference.calm.around World.answer (.fetch ⟨"default", "nightly"⟩)
      (0, contested) =
        (.ok (some (Store.withVersion 1 (.plain "default" "nightly"))), 1, contested) :=
    Prod.ext (congrArg Except.ok hheld) rfl
  have hexchanges : Cycle.exchangesUnder .calm .standard ⟨"default", "nightly"⟩
      (Instant.ofHour 19877 10) (0, contested) = _ := Cycle.transcript_of_found hfetch
  obtain ⟨-, hlive⟩ := @marked_before_provider .calm .standard ⟨"default", "nightly"⟩
    (Instant.ofHour 19877 10) (0, contested) (fun _ _ h => h) hof
  obtain ⟨-, hend⟩ := hlive _ (congrArg List.head? hexchanges) rfl
  have hrefused : ((Change.addFinalizer.apply (Store.withVersion 1 (.plain "default" "nightly"))
      5).run (Interference.calm.around World.answer) (1, contested)).1 =
        .error (.conflict "default/nightly") := by decide +kernel
  obtain ⟨hresult, hcalls, -⟩ := hend _ hrefused
  exact ⟨hresult, hcalls⟩

end PeriodScaler
