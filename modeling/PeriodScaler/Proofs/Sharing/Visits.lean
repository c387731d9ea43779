import PeriodScaler.Proofs.Cycle.Attempts
import PeriodScaler.Proofs.Cycle.Course
import PeriodScaler.Proofs.Sharing.Pool

/-!
# Finalizers written by cycles that share a store

A cycle looks once whether its Scaler is being deleted: at the version that it fetched first. That
decides whether it puts its marker on the Scaler or takes it off, and after a conflict the same is
done to the version that is stored by then. So a write of finalizers fits the object that it is made
to exactly when that object is being deleted as the first version was. Without a conflict the two
are one; after a conflict a deletion, or a removal and a new creation, may have come in between.

* **`Visit.obeys`**: the rule that the calls of a cycle keep to, whatever they are answered.
* **`commits_made`**: a change that retries never looks at the deletion.
* **`finalizer_write_fits_iff`**: when a write of finalizers fits its object.
-/

namespace PeriodScaler

open Memory (World Store History Held)

/-- A cycle for a Scaler at an instant. -/
structure Visit where
  settings : Settings
  key : Key
  now : Instant

/-- A cycle may begin at any time. -/
instance : Job Visit where
  Result := Except CycleError Outcome
  program v := Cycle.reconcile v.settings v.key v.now
  Admits _ _ := True
  admits_cons h _ := h

/-- The Scalers that were read, in the order of the reads. -/
def found (past : List collaborators.Exchange) : List Scaler :=
  past.filterMap Interface.Exchange.reading

/-- Whether a write was refused because the object had changed. -/
def Interface.Exchange.conflicts : collaborators.Exchange → Bool
  | ⟨.putFinalizers _ _, .error e⟩ => e.isConflict
  | ⟨.putStatus _ _, .error e⟩ => e.isConflict
  | _ => false

theorem found_append (past more : List collaborators.Exchange) :
    found (past ++ more) = found past ++ found more :=
  List.filterMap_append

theorem found_onResources {l : List collaborators.Exchange}
    (hl : ∀ e ∈ l, e.call.isResource = true) : found l = [] := by
  refine List.filterMap_eq_nil_iff.mpr fun e he => ?_
  obtain ⟨c, answer⟩ := e
  have hc := hl _ he
  cases c <;> first | rfl | cases hc

/-! ## The rule of a cycle -/

/-- The finalizers that are to be written for a copy, by whether a Scaler is being deleted. -/
def dueFinalizers (deleting : Bool) (copy : Scaler) : List String :=
  if deleting then Change.unmarked copy.finalizers else copy.finalizers ++ [Scaler.finalizer]

/-- The change of a Scaler's marker, by whether a Scaler is being deleted. -/
def Change.due (deleting : Bool) : Change :=
  if deleting then .removeFinalizer else .addFinalizer

theorem Change.write_due (deleting : Bool) (copy : Scaler) :
    (due deleting).write copy = .putFinalizers copy (dueFinalizers deleting copy) := by
  cases deleting <;> rfl

theorem Change.made_due (deleting : Bool) (x : Scaler) :
    (due deleting).made x =
      { x with metadata := { x.metadata with finalizers := some (dueFinalizers deleting x) } } := by
  cases deleting <;> rfl

theorem Change.isSatisfied_due {deleting : Bool} {copy : Scaler} :
    (due deleting).isSatisfied copy = false ↔ copy.isMarked = deleting := by
  cases deleting <;> simp [due, isSatisfied]

/-- A cycle writes finalizers for the copy that it read last, and decides by the one that it read
first; it reads again only after a conflict. -/
def Visit.rule (v : Visit) (past : List collaborators.Exchange) : Call → Prop
  | .putFinalizers copy finalizers => ∃ first, (found past).head? = some first ∧
      (found past).getLast? = some copy ∧ copy.isMarked = first.isDeleting ∧
      finalizers = dueFinalizers first.isDeleting copy
  | .fetch key => (past = [] ∧ key = v.key) ∨ ∃ before e, past = before ++ [e] ∧ e.conflicts = true
  | _ => True

namespace Visit

variable (v : Visit) {past : List collaborators.Exchange} {x : Scaler}

theorem rule_fetch (c : Change) (copy : Scaler) {e : Cause} (he : e.isConflict = true) (key : Key) :
    v.rule (past ++ [c.exchange copy (.error e)]) (.fetch key) := by
  refine Or.inr ⟨past, _, rfl, ?_⟩
  cases c <;> exact he

/-- The attempts to change the marker, once the first copy has been read. -/
theorem obeys_due (hx : found past = [x]) (attempts : Nat) :
    ((Change.due x.isDeleting).apply x attempts).Obeys v.rule past fun _ _ => True := by
  refine Change.obeys_apply (fun past copy =>
    (found past).head? = some x ∧ (found past).getLast? = some copy) ?_ ?_ ?_ rfl ?_ attempts
  · intro past copy hcopy hmissing
    rw [Change.write_due]
    exact ⟨x, hcopy.1, hcopy.2, Change.isSatisfied_due.mp hmissing, rfl⟩
  · exact fun past copy e _ he => v.rule_fetch _ copy he x.key
  · intro past copy e latest hcopy
    have hnone : found [(Change.due x.isDeleting).exchange copy (.error e)] = [] := by
      cases x.isDeleting <;> rfl
    have hall : found (past ++ [(Change.due x.isDeleting).exchange copy (.error e)] ++
        [⟨.fetch x.key, .ok (some latest)⟩]) = found past ++ [latest] := by
      rw [found_append, found_append, hnone, List.append_nil]
      rfl
    rw [hall]
    refine ⟨?_, List.getLast?_concat⟩
    rw [List.head?_append, hcopy.1]
    rfl
  · rw [hx]
    exact ⟨rfl, rfl⟩

theorem obeys_resources {α : Type} {p : Work α} (hp : OnResources p) :
    p.Obeys v.rule past fun _ all => found all = found past := by
  have hcalls : p.Obeys v.rule past fun _ all =>
      ∃ l, all = past ++ l ∧ ∀ e ∈ l, e.call.isResource = true :=
    Program.Obeys.of_calls hp fun c hc past => by cases c <;> trivial
  refine hcalls.mono ?_
  rintro a _ ⟨l, rfl, hl⟩
  rw [found_append, found_onResources hl, List.append_nil]

theorem obeys_serveBy (access : Access) :
    (Cycle.serveBy v.settings v.key v.now x access).Obeys v.rule past fun _ _ => True := by
  unfold Cycle.serveBy
  cases resolve x.spec.periods x.currentPeriod false v.now with
  | error e =>
    cases e with
    | invalid name flaw => trivial
    | alreadyRun p =>
      simp only
      cases p.rerunDelay v.now v.settings.grace <;> trivial
  | ok r =>
    simp only
    by_cases hidle : r.isIdle = true
    · rw [if_pos hidle]
      trivial
    · rw [if_neg hidle]
      refine (v.obeys_resources (onResources_setAll _ _ _ _)).bind fun report past _ => ?_
      have happly : ((Change.setStatus (Stages.outcomeStatus r report)).apply x
          v.settings.attempts).Obeys v.rule past fun _ _ => True := by
        refine Change.obeys_apply (fun _ _ => True) ?_ ?_ ?_ rfl trivial _
        · exact fun _ _ _ _ => trivial
        · exact fun past copy e _ he => v.rule_fetch _ copy he x.key
        · exact fun _ _ _ _ _ => trivial
      refine happly.bind fun answer past _ => ?_
      cases answer <;> trivial

theorem obeys_serve : (Cycle.serve v.settings v.key v.now x).Obeys v.rule past fun _ _ => True := by
  refine ⟨trivial, fun answer => ?_⟩
  cases answer with
  | error e => trivial
  | ok access => exact v.obeys_serveBy access

theorem obeys_release (hx : found past = [x]) (hdeleting : x.isDeleting = true)
    (period : Option Period) (report : Report) :
    (Cycle.release v.settings x period report).Obeys v.rule past fun _ _ => True := by
  have happly := v.obeys_due hx v.settings.attempts
  rw [hdeleting] at happly
  refine Program.Obeys.bind happly fun answer past _ => ?_
  cases answer <;> trivial

theorem obeys_leave (hx : found past = [x]) (hdeleting : x.isDeleting = true) :
    (Cycle.leave v.settings v.key v.now x).Obeys v.rule past fun _ _ => True := by
  unfold Cycle.leave
  by_cases hrestore : x.spec.restoreOnDelete = true
  · rw [if_pos hrestore]
    refine ⟨trivial, fun answer => ?_⟩
    have hstill : found (past ++ [⟨.connect x, answer⟩]) = [x] := by
      rw [found_append, hx]
      rfl
    cases answer with
    | error e => trivial
    | ok access =>
      simp only
      cases resolve x.spec.periods x.currentPeriod true v.now with
      | error e => trivial
      | ok r =>
        refine (v.obeys_resources (onResources_setAll _ _ _ _)).bind fun report all hall => ?_
        exact v.obeys_release (hall.trans hstill) hdeleting _ report
  · rw [if_neg hrestore]
    exact v.obeys_release hx hdeleting _ _

theorem obeys_attend (hx : found past = [x]) :
    (Cycle.attend v.settings v.key v.now x).Obeys v.rule past fun _ _ => True := by
  cases hdeleting : x.isDeleting with
  | true =>
    cases hmarked : x.isMarked with
    | true =>
      rw [Cycle.attend_leaving hdeleting hmarked]
      exact v.obeys_leave hx hdeleting
    | false =>
      simp only [Cycle.attend, hdeleting, hmarked, if_true]
      trivial
  | false =>
    rw [Cycle.attend_live hdeleting]
    have happly := v.obeys_due hx v.settings.attempts
    rw [hdeleting] at happly
    refine Program.Obeys.bind happly fun answer past _ => ?_
    cases answer with
    | ok updated => exact v.obeys_serve
    | error e => trivial

/-- **The rule that the calls of a cycle keep to**, whatever they are answered. -/
theorem obeys : (Cycle.reconcile v.settings v.key v.now).Obeys v.rule [] fun _ _ => True := by
  rw [Cycle.reconcile_eq_course]
  refine ⟨Or.inl ⟨rfl, rfl⟩, fun answer => ?_⟩
  rcases answer with e | _ | x
  · trivial
  · trivial
  · exact v.obeys_attend rfl

end Visit

/-! ## Whether a write fits -/

/-- Finalizers fit the object for which they are written: the marker does not come on one that is
being deleted, and does not go off a live one. -/
structure Scaler.Fits (x : Scaler) (finalizers : List String) : Prop where
  added : x.isMarked = false → finalizers.contains Scaler.finalizer = true → x.isDeleting = false
  removed : x.isMarked = true → finalizers.contains Scaler.finalizer = false → x.isDeleting = true

theorem contains_dueFinalizers (deleting : Bool) (x : Scaler) :
    (dueFinalizers deleting x).contains Scaler.finalizer = !deleting := by
  cases deleting with
  | true => simp [dueFinalizers, Change.unmarked]
  | false => simp [dueFinalizers]

theorem fits_dueFinalizers_iff {deleting : Bool} {x : Scaler} (hmarked : x.isMarked = deleting) :
    x.Fits (dueFinalizers deleting x) ↔ x.isDeleting = deleting := by
  have hdue := contains_dueFinalizers deleting x
  constructor
  · intro h
    cases deleting with
    | true => exact h.removed hmarked hdue
    | false => exact h.added hmarked hdue
  · intro h
    refine ⟨fun hunmarked hadded => ?_, fun hmark hremoved => ?_⟩
    · exact h.trans (hmarked.symm.trans hunmarked)
    · exact h.trans (hmarked.symm.trans hmark)

theorem fetch_of_reading {e : collaborators.Exchange} {x : Scaler} (h : e.reading = some x) :
    ∃ key, e.call = .fetch key := by
  obtain ⟨c, answer⟩ := e
  cases c <;> first | exact ⟨_, rfl⟩ | cases h

/-- Two versions were read only because a write met a conflict. -/
theorem exists_conflict {v : Visit} {transcript : List collaborators.Exchange}
    (hobeyed : ∀ before e after, transcript = before ++ e :: after → v.rule before e.call)
    {first last : Scaler} (hfirst : (found transcript).head? = some first)
    (hlast : (found transcript).getLast? = some last) (hne : last ≠ first) :
    ∃ e ∈ transcript, e.conflicts = true := by
  obtain ⟨rest, hrest⟩ := List.head?_eq_some_iff.mp hfirst
  have hmem : last ∈ rest := by
    have hin : last ∈ found transcript := List.mem_of_getLast? hlast
    rw [hrest] at hin
    exact (List.mem_cons.mp hin).resolve_left hne
  obtain ⟨before, e, after, hsplit, -, -, hafter⟩ := List.filterMap_eq_cons_iff.mp hrest
  rw [← hafter] at hmem
  obtain ⟨e', he', hreading⟩ := List.mem_filterMap.mp hmem
  obtain ⟨between, later, hbetween⟩ := List.append_of_mem he'
  have hsplit' : transcript = (before ++ e :: between) ++ e' :: later := by
    rw [hsplit, hbetween, List.append_assoc, List.cons_append]
  obtain ⟨key, hcall⟩ := fetch_of_reading hreading
  have hrule := hobeyed _ _ _ hsplit'
  rw [hcall] at hrule
  rcases hrule with ⟨hnil, -⟩ | ⟨l, e'', hlast, hconflict⟩
  · exact absurd hnil (by simp)
  · refine ⟨e'', ?_, hconflict⟩
    rw [hsplit', hlast]
    exact List.mem_append_left _ (List.mem_append_right _ (List.mem_singleton.mpr rfl))

/-- What a cycle that commits a write of finalizers has read, and what the write does. -/
structure Visit.Marks (p : Pool Visit) (i : Nat) (transcript : List collaborators.Exchange)
    (first x : Scaler) (finalizers : List String) : Prop where
  first_eq : (found transcript).head? = some first
  last_eq : (found transcript).getLast? = some x
  stored_eq : p.world.store.stored x.key = some x
  marked_eq : x.isMarked = first.isDeleting
  due_eq : finalizers = dueFinalizers first.isDeleting x
  held_eq : (p.call i none).world.store.stored x.key =
    Store.remains (Store.withVersion (p.world.store.version + 1)
      { x with metadata := { x.metadata with finalizers := some finalizers } })
  fits_iff : x.Fits finalizers ↔ x.isDeleting = first.isDeleting
  fits_of_calm : (∀ e ∈ transcript, e.conflicts = false) → x.Fits finalizers

/-- The write of finalizers that a task is about to make. -/
def Task.marking (t : Task Visit) : Option (Scaler × List String) :=
  match t.left with
  | .ask (.putFinalizers x finalizers) _ => some (x, finalizers)
  | _ => none

theorem Task.left_of_marking {t : Task Visit} {x : Scaler} {finalizers : List String}
    (h : t.marking = some (x, finalizers)) :
    ∃ next : Except Cause Scaler → Work (Except CycleError Outcome),
      t.left = .ask (.putFinalizers x finalizers) next := by
  unfold marking at h
  split at h
  · rename_i next hleft
    cases h
    exact ⟨next, hleft⟩
  · cases h

/-- A write of finalizers that a cycle commits is made to the version that it read last, which is
the stored one, and by the deletion of the version that it read first. -/
theorem Visit.marks {p : Pool Visit} (hp : p.Reached) {i : Nat} {t : Task Visit}
    (hi : p.tasks[i]? = some t) {x y : Scaler} {finalizers : List String}
    (hmarking : t.marking = some (x, finalizers))
    (hdone : (p.world.store.putFinalizers x finalizers).1 = .ok y) :
    ∃ first, Visit.Marks p i t.transcript first x finalizers := by
  obtain ⟨next, hleft⟩ := Task.left_of_marking hmarking
  obtain ⟨v, transcript, left⟩ := t
  obtain rfl : left = .ask (.putFinalizers x finalizers) next := hleft
  have hsound := hp.sound Visit.obeys _ (List.mem_of_getElem? hi)
  obtain ⟨first, hfirst, hlast, hmarked, hdue⟩ := hsound.obeys.1
  have hheld : Held p.stores x.key x := by
    obtain ⟨e, he, hreading⟩ := List.mem_filterMap.mp (List.mem_of_getLast? hlast)
    obtain ⟨key, -, hheld⟩ := hsound.read e he x hreading
    rwa [hp.history.key_eq hheld]
  obtain ⟨z, -, hchanged⟩ := Store.changed_of_write hdone
  obtain rfl : x = z := hp.history.eq_of_version hheld
    ⟨p.world.store, List.mem_cons_self, hchanged.stored_eq⟩ hchanged.version_eq.symm
  have hnext : (p.call i none).world.store = (p.world.store.putFinalizers x finalizers).2 := by
    simp only [Pool.call, hi]
    rfl
  have hfits := fits_dueFinalizers_iff hmarked
  rw [← hdue] at hfits
  refine ⟨first, hfirst, hlast, hchanged.stored_eq, hmarked, hdue, ?_, hfits, ?_⟩
  · rw [hnext]
    exact hchanged.held_eq
  · intro hcalm
    refine hfits.mpr ?_
    by_contra hne
    have hdiffers : x ≠ first := fun h => hne (h ▸ rfl)
    obtain ⟨e, he, hconflict⟩ := exists_conflict hsound.obeyed hfirst hlast hdiffers
    exact absurd (hcalm e he) (by rw [hconflict]; exact nofun)

/-! ## Changes by themselves -/

theorem Change.run_commit (c : Change) (copy : Scaler) (w : World) :
    (c.commit copy).run World.answer w =
      ((w.store.write copy (c.edit copy)).1,
        { w with store := (w.store.write copy (c.edit copy)).2 }) := by
  cases c <;> rfl

/-- **A change that retries never looks at the deletion**: from a stale copy without the change, it
makes the change of whichever version is stored. -/
theorem Change.run_apply_stale (c : Change) {w : World} {stale x : Scaler} {attempts : Nat}
    (hconflicts : w.store.conflicts = 0) (hreads : w.store.failingReads = false)
    (hx : w.store.stored stale.key = some x) (hkey : x.key = stale.key)
    (hversion : x.metadata.resourceVersion ≠ stale.metadata.resourceVersion)
    (hstale : c.isSatisfied stale = false) (hmissing : c.isSatisfied x = false)
    (hattempts : 2 ≤ attempts) :
    ((c.apply stale attempts).run World.answer w).1 =
        .ok (Store.withVersion (w.store.version + 1) (c.made x)) ∧
      ((c.apply stale attempts).run World.answer w).2.store.stored stale.key =
        Store.remains (Store.withVersion (w.store.version + 1) (c.made x)) := by
  obtain ⟨left, rfl⟩ : ∃ left, attempts = left + 2 := ⟨attempts - 2, by omega⟩
  have hmax : max (left + 2) 1 = left + 2 := by omega
  obtain ⟨s, hfirst, hs⟩ : ∃ s : Store, w.store.write stale (c.edit stale) =
      (.error (.conflict stale.key.text), s) ∧ s = { w.store with attempts := s.attempts } :=
    ⟨_, Store.write_stale (c.edit stale) hconflicts hx hversion, rfl⟩
  have hstored : s.stored stale.key = some x := by
    rw [hs]
    exact hx
  have hread : s.fetch stale.key = .ok (some x) := by
    rw [Store.fetch, hstored, hs, hreads]
    rfl
  have hcurrent : s.stored x.key = some x := hkey ▸ hstored
  have hsecond := Store.write_current (c.edit x) (by rw [hs]; exact hconflicts) hcurrent rfl
  obtain ⟨z, -, hchanged⟩ := Store.changed_of_write hsecond
  obtain rfl : x = z := Option.some.inj (hcurrent.symm.trans hchanged.stored_eq)
  have hnext : s.version = w.store.version := by rw [hs]
  have hconflict : (c.commit stale).run World.answer w =
      (.error (.conflict stale.key.text), { w with store := s }) := by
    rw [run_commit, hfirst]
  have hlast : (c.commit x).run World.answer { w with store := s } =
      (.ok (Store.withVersion (s.version + 1) (c.made x)),
        { w with store := (s.write x (c.edit x)).2 }) := by
    rw [run_commit, hsecond]
    rfl
  have hfound : World.answer (.fetch stale.key) { w with store := s } =
      (.ok (some x), { w with store := s }) :=
    Prod.ext hread rfl
  unfold apply
  rw [hmax, run_attempt_contested hstale hconflict rfl hfound, Option.elim_some,
    run_attempt_written hmissing hlast, ← hkey, ← hnext]
  exact ⟨rfl, hchanged.held_eq⟩

/-- **When a write of finalizers fits its object**, the version `x`. In every reachable pool of
cycles, a write of finalizers that is committed is made to the version that its cycle read last, and
fits it exactly when that one is being deleted as the first one read was; without a conflict it
fits. A change by itself, from any stale copy, is made to the version that is stored, and fits it or
not by chance. -/
theorem finalizer_write_fits_iff (x : Scaler) :
    (∀ p : Pool Visit, p.Reached → ∀ i t, p.tasks[i]? = some t → ∀ finalizers,
      t.marking = some (x, finalizers) → ∀ y,
      (p.world.store.putFinalizers x finalizers).1 = .ok y →
      ∃ first, Visit.Marks p i t.transcript first x finalizers) ∧
    ∀ (deleting : Bool) (w : World) (stale : Scaler) (attempts : Nat),
      w.store.conflicts = 0 → w.store.failingReads = false →
      w.store.stored stale.key = some x → x.key = stale.key →
      x.metadata.resourceVersion ≠ stale.metadata.resourceVersion →
      stale.isMarked = deleting → x.isMarked = deleting → 2 ≤ attempts →
      (((Change.due deleting).apply stale attempts).run World.answer w).2.store.stored stale.key =
        Store.remains (Store.withVersion (w.store.version + 1)
          { x with metadata :=
            { x.metadata with finalizers := some (dueFinalizers deleting x) } }) ∧
      (x.Fits (dueFinalizers deleting x) ↔ x.isDeleting = deleting) := by
  refine ⟨fun p hp i t hi finalizers hmarking y hdone => Visit.marks hp hi hmarking hdone, ?_⟩
  intro deleting w stale attempts hconflicts hreads hx hkey hversion hstale hmissing hattempts
  refine ⟨?_, fits_dueFinalizers_iff hmissing⟩
  rw [← Change.made_due]
  exact ((Change.due deleting).run_apply_stale hconflicts hreads hx hkey hversion
    (Change.isSatisfied_due.mpr hstale) (Change.isSatisfied_due.mpr hmissing) hattempts).2

/-! ## A deletion in between -/

/-- A Scaler that is being deleted and waits for somebody else. -/
def doomed : Scaler :=
  let plain := Scaler.plain "default" "nightly"
  { plain with metadata :=
    { plain.metadata with
      deletionTime := some ⟨⟨⟨19877⟩, .midnight⟩⟩
      finalizers := some ["example.com/backup"] } }

/-- A cycle has read a live Scaler; then the Scaler was deleted, the marker met a conflict, and the
deleted Scaler has been read. -/
def overtakenByDeletion : Pool Visit :=
  (((((Pool.start (.leadsTo .kubernetes)).happen (.put (.plain "default" "nightly"))).begin
    ⟨.standard, doomed.key, ⟨⟨⟨19877⟩, .midnight⟩⟩⟩).call 0 none).happen
      (.put doomed)).call 0 none |>.call 0 none

/-- The marker is then put on a Scaler that is being deleted. -/
theorem overtakenByDeletion_marks : ∃ t first x finalizers,
    overtakenByDeletion.tasks[0]? = some t ∧ t.marking = some (x, finalizers) ∧
    Visit.Marks overtakenByDeletion 0 t.transcript first x finalizers ∧ x.isDeleting = true ∧
    ¬ x.Fits finalizers := by
  let x := Store.withVersion 2 doomed
  let finalizers := ["example.com/backup", Scaler.finalizer]
  have hreached : overtakenByDeletion.Reached := by
    refine Pool.Reached.call (Pool.Reached.call (Pool.Reached.happen (Pool.Reached.call
      (Pool.Reached.begin (Pool.Reached.happen (Pool.reached_start _) _) trivial) 0 none) _)
      0 none) 0 none
  have hnext : overtakenByDeletion.tasks[0]?.bind Task.marking = some (x, finalizers) := by
    decide +kernel
  obtain ⟨t, ht, hmarking⟩ := Option.bind_eq_some_iff.mp hnext
  have hdone : (overtakenByDeletion.world.store.putFinalizers x finalizers).1 =
      .ok (Store.withVersion 3
        { doomed with metadata := { doomed.metadata with finalizers := some finalizers } }) := by
    decide +kernel
  obtain ⟨first, hmarks⟩ :=
    (finalizer_write_fits_iff x).1 _ hreached 0 t ht finalizers hmarking _ hdone
  have hdeleting : x.isDeleting = true := rfl
  have hunmarked : x.isMarked = false := by decide
  refine ⟨t, first, x, finalizers, ht, hmarking, hmarks, hdeleting, fun hfits => ?_⟩
  have hlive := hfits.added hunmarked (by decide)
  exact absurd (hdeleting.symm.trans hlive) Bool.noConfusion

end PeriodScaler
