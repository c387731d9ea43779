import PeriodScaler.Proofs.Cycle.Attempts
import PeriodScaler.Proofs.Sharing.Pool

/-!
# No lost updates

Any number of changes of Scalers run in one world, each from a copy that was stored once, however
stale it is by then. A write is made only for the version that is stored, and a version belongs to
one Scaler for ever, so the copy that a change was computed from is the stored object itself: the
write does to the stored object what the change says, and all that others committed stays.

* **`Task.commits_le_one`**: a change commits at most one write.
* **`Commit.of_made`**: a write that is made is the change, made to the object that is stored then.
* **`leaves_moves`**: what changes leave of what a key held, in whatever order their calls come.
* **`no_update_is_lost`**: all of this in every reachable pool.
-/

namespace PeriodScaler

open Memory (World Store History Held)

/-- A change that is to be made from a copy of a Scaler. -/
structure Update where
  change : Change
  copy : Scaler
  attempts : Nat

/-- A change may begin from any copy that was stored. -/
instance : Job Update where
  Result := Except Cause Scaler
  program u := u.change.apply u.copy u.attempts
  Admits stores u := Held stores u.copy.key u.copy
  admits_cons h s := h.cons s

/-! ## What a change makes of an object -/

namespace Change

/-- The write of a copy is for that copy and makes the change of it. -/
theorem edit?_write {c : Change} {x copy : Scaler} {edit : Scaler → Scaler}
    (h : (c.write x).edit? = some (copy, edit)) : copy = x ∧ edit x = c.made x := by
  cases c <;> cases h <;> exact ⟨rfl, rfl⟩

end Change

/-- One Scaler has all that another one has, but for the version, the marker, and a status that was
set. The finalizers of others are the same ones in the same order. -/
structure Scaler.Keeps (sets : Status → Prop) (x y : Scaler) : Prop where
  spec_eq : y.spec = x.spec
  metadata_eq : { y.metadata with finalizers := none, resourceVersion := none } =
    { x.metadata with finalizers := none, resourceVersion := none }
  others_eq : (y.finalizers.filter fun f => f != Scaler.finalizer) =
    x.finalizers.filter fun f => f != Scaler.finalizer
  status_eq : y.status = x.status ∨ ∃ status, sets status ∧ y.status = some status

/-- What changes leave of what a key held: an object is kept, or it goes away because it is being
deleted and nobody else's finalizer is on it. -/
inductive Leaves (sets : Status → Prop) : Option Scaler → Option Scaler → Prop where
  | nothing : Leaves sets none none
  | kept {x y : Scaler} (h : x.Keeps sets y) : Leaves sets (some x) (some y)
  | released {x : Scaler} (hdeleting : x.isDeleting = true)
    (hnone : ∀ f ∈ x.finalizers, f = Scaler.finalizer) : Leaves sets (some x) none

section Leaves

variable {sets : Status → Prop}

theorem Scaler.Keeps.refl (x : Scaler) : x.Keeps sets x :=
  ⟨rfl, rfl, rfl, Or.inl rfl⟩

/-- The finalizers of others are all there. -/
theorem Scaler.Keeps.mem_finalizers {x y : Scaler} (h : x.Keeps sets y) {f : String}
    (hf : f ≠ Scaler.finalizer) (hx : f ∈ x.finalizers) : f ∈ y.finalizers := by
  have hfiltered : f ∈ y.finalizers.filter fun f => f != Scaler.finalizer := by
    rw [h.others_eq]
    exact List.mem_filter.mpr ⟨hx, bne_iff_ne.mpr hf⟩
  exact (List.mem_filter.mp hfiltered).1

theorem Scaler.Keeps.trans {x y z : Scaler} (hxy : x.Keeps sets y) (hyz : y.Keeps sets z) :
    x.Keeps sets z where
  spec_eq := hyz.spec_eq.trans hxy.spec_eq
  metadata_eq := hyz.metadata_eq.trans hxy.metadata_eq
  others_eq := hyz.others_eq.trans hxy.others_eq
  status_eq := by
    rcases hyz.status_eq with hsame | hset
    · rw [hsame]
      exact hxy.status_eq
    · exact Or.inr hset

theorem Scaler.Keeps.isDeleting_eq {x y : Scaler} (h : x.Keeps sets y) :
    y.isDeleting = x.isDeleting := by
  have hdeletion := congrArg Metadata.deletionTime h.metadata_eq
  exact congrArg Option.isSome hdeletion

theorem Leaves.refl : ∀ held : Option Scaler, Leaves sets held held
  | none => .nothing
  | some x => .kept (.refl x)

theorem Leaves.trans {a b c : Option Scaler} (hab : Leaves sets a b) (hbc : Leaves sets b c) :
    Leaves sets a c := by
  cases hab with
  | nothing => exact hbc
  | kept h =>
    cases hbc with
    | kept h' => exact .kept (h.trans h')
    | released hdeleting hnone =>
      refine .released (h.isDeleting_eq ▸ hdeleting) fun f hf => ?_
      by_contra hother
      exact hother (hnone f (h.mem_finalizers hother hf))
  | released hdeleting hnone =>
    cases hbc with
    | nothing => exact .released hdeleting hnone

theorem Leaves.mono {more : Status → Prop} (hmore : ∀ status, sets status → more status)
    {a b : Option Scaler} (h : Leaves sets a b) : Leaves more a b := by
  cases h with
  | nothing => exact .nothing
  | kept h =>
    refine .kept ⟨h.spec_eq, h.metadata_eq, h.others_eq, ?_⟩
    rcases h.status_eq with hsame | ⟨status, hset, hstatus⟩
    · exact Or.inl hsame
    · exact Or.inr ⟨status, hmore status hset, hstatus⟩
  | released hdeleting hnone => exact .released hdeleting hnone

/-- What a change makes of an object has all else that the object had. -/
theorem keeps_of_makes {c : Change} {x y : Scaler} (h : c.Makes x y)
    (hsets : ∀ status, c = .setStatus status → sets status) (n : Nat) :
    x.Keeps sets (Store.withVersion n y) := by
  cases h with
  | marked =>
    refine ⟨rfl, rfl, ?_, Or.inl rfl⟩
    change ((x.finalizers ++ [Scaler.finalizer]).filter fun f => f != Scaler.finalizer) = _
    have hnone : [Scaler.finalizer].filter (fun f => f != Scaler.finalizer) = [] := by decide
    rw [List.filter_append, hnone, List.append_nil]
  | released =>
    refine ⟨rfl, rfl, ?_, Or.inl rfl⟩
    change ((x.finalizers.filter fun f => f != Scaler.finalizer).filter
      fun f => f != Scaler.finalizer) = _
    rw [List.filter_filter]
    simp only [Bool.and_self]
  | status status => exact ⟨rfl, rfl, rfl, Or.inr ⟨status, hsets status rfl, rfl⟩⟩

/-- A change that is committed leaves all else of the object, or the object goes away because nobody
else's finalizer is on it. -/
theorem leaves_remains {c : Change} {x y : Scaler} (h : c.Makes x y)
    (hsets : ∀ status, c = .setStatus status → sets status) (n : Nat) :
    Leaves sets (some x) (Store.remains (Store.withVersion n y)) := by
  have hkeeps := keeps_of_makes h hsets n
  unfold Store.remains
  split
  · rename_i hreleased
    obtain ⟨hdeleting, hempty⟩ := Bool.and_eq_true_iff.mp hreleased
    have hnone : (Store.withVersion n y).finalizers = [] := List.isEmpty_iff.mp hempty
    refine .released (hkeeps.isDeleting_eq ▸ hdeleting) fun f hf => ?_
    by_contra hother
    have hleft := hkeeps.mem_finalizers hother hf
    rw [hnone] at hleft
    exact List.not_mem_nil hleft
  · exact .kept hkeeps

end Leaves

/-! ## The rule of a change -/

/-- The writes that a task has committed. -/
def Task.commits (t : Task Update) : Nat :=
  t.transcript.countP Interface.Exchange.commits

namespace Update

/-- A copy that a change may be computed from: the one that it was given, or one that it read. -/
def Knows (u : Update) (past : List collaborators.Exchange) (copy : Scaler) : Prop :=
  copy = u.copy ∨ ∃ e ∈ past, e.call = .fetch u.copy.key ∧ e.reading = some copy

/-- As long as no write of it is committed, a change writes copies that it knows, and reads. -/
def rule (u : Update) (past : List collaborators.Exchange) (c : Call) : Prop :=
  past.countP Interface.Exchange.commits = 0 ∧
    (c = .fetch u.copy.key ∨ ∃ copy, u.Knows past copy ∧ u.change.isSatisfied copy = false ∧
      c = u.change.write copy)

theorem obeys (u : Update) :
    (u.change.apply u.copy u.attempts).Obeys u.rule [] fun _ _ => True := by
  have hconflict : ∀ copy e, (u.change.exchange copy (.error e)).commits = false := by
    intro copy e
    cases u.change <;> rfl
  refine Change.obeys_apply (fun past copy =>
    past.countP Interface.Exchange.commits = 0 ∧ u.Knows past copy) ?_ ?_ ?_ rfl
    ⟨rfl, Or.inl rfl⟩ _
  · intro past copy hcopy hsatisfied
    exact ⟨hcopy.1, Or.inr ⟨copy, hcopy.2, hsatisfied, rfl⟩⟩
  · intro past copy e hcopy he
    refine ⟨?_, Or.inl rfl⟩
    rw [List.countP_append, hcopy.1, List.countP_singleton, hconflict]
    rfl
  · intro past copy e x hcopy
    refine ⟨?_, Or.inr ⟨_, List.mem_append_right _ (List.mem_singleton.mpr rfl), rfl, rfl⟩⟩
    rw [List.countP_append, List.countP_append, hcopy.1, List.countP_singleton, hconflict]
    rfl

/-- A change of `u` is committed by a step from one pool to another: it is made to the object that
is stored at that step, as a version that no object ever had, and no other object changes. -/
structure Commit (u : Update) (p q : Pool Update) (x : Scaler) : Prop where
  stored_eq : p.world.store.stored u.copy.key = some x
  missing : u.change.isSatisfied x = false
  fresh : ∀ key y, Held p.stores key y →
    y.metadata.resourceVersion ≠ some (Text.ofNat (p.world.store.version + 1))
  held_eq : ∃ y, u.change.Makes x y ∧ q.world.store.stored u.copy.key =
    Store.remains (Store.withVersion (p.world.store.version + 1) y)
  others_eq : ∀ key, key ≠ u.copy.key → q.world.store.stored key = p.world.store.stored key

end Update

namespace Pool

/-- The writes that a task of a pool has committed. -/
def commits (i : Nat) (p : Pool Update) : Nat :=
  (p.tasks[i]?.map Task.commits).getD 0

/-- The statuses that tasks of a pool are to set under a key. -/
def Sets (p : Pool Update) (key : Key) (status : Status) : Prop :=
  ∃ t ∈ p.tasks, t.job.copy.key = key ∧ t.job.change = .setStatus status

end Pool

section Reached

variable {p q : Pool Update}

/-- **A change commits at most one write.** -/
theorem Task.commits_le_one (hp : p.Reached) {t : Task Update} (ht : t ∈ p.tasks) :
    t.commits ≤ 1 := by
  have hsound := hp.sound Update.obeys t ht
  unfold Task.commits
  rcases List.eq_nil_or_concat t.transcript with hnil | ⟨before, e, hlast⟩
  · rw [hnil]
    exact Nat.zero_le 1
  · have hbefore := (hsound.obeyed before e [] (by rw [hlast, List.concat_eq_append])).1
    rw [hlast, List.concat_eq_append, List.countP_append, hbefore, Nat.zero_add]
    exact List.countP_le_length

/-- **A write that is made is the change**, made to the object that is stored then. -/
theorem Commit.of_made (hp : p.Reached) {t : Task Update} (ht : t ∈ p.tasks) {copy x : Scaler}
    {edit : Scaler → Scaler} {c : Call} (hrule : t.job.rule t.transcript c)
    (hedit : c.edit? = some (copy, edit))
    (hchanged : p.world.store.Changed copy edit x q.world.store) : t.job.Commit p q x := by
  have hsound := hp.sound Update.obeys t ht
  obtain ⟨-, hread | ⟨known, hknown, hmissing, hwrite⟩⟩ := hrule
  · subst hread
    cases hedit
  · rw [hwrite] at hedit
    obtain ⟨rfl, hmade⟩ := Change.edit?_write hedit
    have hheld : Held p.stores t.job.copy.key copy := by
      rcases hknown with rfl | ⟨e, he, hfetch, hreading⟩
      · exact hsound.admitted
      · obtain ⟨key, hcall, hheld⟩ := hsound.read e he copy hreading
        obtain rfl := Call.fetch.inj (hfetch.symm.trans hcall)
        exact hheld
    have hkey : copy.key = t.job.copy.key := hp.history.key_eq hheld
    have hstored := hchanged.stored_eq
    have hsame : x = copy := hp.history.eq_of_version
      ⟨p.world.store, List.mem_cons_self, hstored⟩ hheld hchanged.version_eq
    subst hsame
    refine ⟨hkey ▸ hstored, hmissing, fun key y hy => hp.history.version_ne_next hy, ?_, ?_⟩
    · refine ⟨_, t.job.change.makes_made x, ?_⟩
      rw [← hkey, ← hmade]
      exact hchanged.held_eq
    · intro key hne
      exact hchanged.others_eq key (hkey ▸ hne)

/-- What the next call of a task does: nothing is stored otherwise, or its change is committed. -/
theorem idle_or_commit (hp : p.Reached) (i : Nat) (refusal : Option Cause) :
    ((∀ key, (p.call i refusal).world.store.stored key = p.world.store.stored key) ∧
      (p.call i refusal).commits i = p.commits i) ∨
    ∃ t x, p.tasks[i]? = some t ∧ p.commits i = 0 ∧ (p.call i refusal).commits i = 1 ∧
      t.job.Commit p (p.call i refusal) x := by
  rcases p.call_cases i refusal with hnone | ⟨u, transcript, c, next, hi, hcall⟩
  · rw [hnone]
    exact Or.inl ⟨fun _ => rfl, rfl⟩
  · have hlt : i < p.tasks.length := (List.getElem?_eq_some_iff.mp hi).1
    have ht := List.mem_of_getElem? hi
    have hrule : u.rule transcript c := (hp.sound Update.obeys _ ht).obeys.1
    have hbefore : p.commits i = 0 := by
      rw [Pool.commits, hi]
      exact hrule.1
    have hafter : (p.call i refusal).commits i =
        [(⟨c, (p.world.answerOr refusal c).1⟩ : collaborators.Exchange)].countP
          Interface.Exchange.commits := by
      rw [hcall, Pool.commits, List.getElem?_set_self hlt]
      simp only [Option.map_some, Option.getD_some, Task.commits, List.countP_append, hrule.1,
        Nat.zero_add]
    rw [List.countP_singleton] at hafter
    cases Effect.answerOr refusal c p.world with
    | idle hcommits hsame =>
      refine Or.inl ⟨fun key => ?_, ?_⟩
      · rw [hcall]
        exact hsame key
      · rw [hafter, hbefore, hcommits]
        rfl
    | @made copy edit x hcommits hedit hchanged =>
      have hworld : (p.call i refusal).world.store = (p.world.answerOr refusal c).2.store := by
        rw [hcall]
        rfl
      refine Or.inr ⟨_, x, hi, hbefore, ?_, ?_⟩
      · rw [hafter, hcommits]
        rfl
      · exact Commit.of_made hp ht hrule hedit (hworld ▸ hchanged)

/-! ## What others committed -/

theorem sets_moves (hq : p.Moves q) {key : Key} {status : Status} (h : p.Sets key status) :
    q.Sets key status := by
  obtain ⟨t, ht, hkey, hchange⟩ := h
  cases hq with
  | begun hj => exact ⟨t, List.mem_append_left _ ht, hkey, hchange⟩
  | called i refusal =>
    rcases p.call_cases i refusal with hnone | ⟨u, transcript, c, next, hi, hcall⟩
    · rw [hnone]
      exact ⟨t, ht, hkey, hchange⟩
    · have hlt : i < p.tasks.length := (List.getElem?_eq_some_iff.mp hi).1
      obtain ⟨k, hk⟩ := List.getElem?_of_mem ht
      rw [hcall]
      by_cases hik : i = k
      · subst hik
        obtain rfl := Option.some.inj (hi.symm.trans hk)
        exact ⟨_, List.mem_of_getElem? (List.getElem?_set_self hlt), hkey, hchange⟩
      · refine ⟨t, List.mem_of_getElem? (i := k) ?_, hkey, hchange⟩
        rw [List.getElem?_set_ne hik]
        exact hk

/-- One step of the tasks. -/
theorem leaves_step (hp : p.Reached) (hq : p.Moves q) (key : Key) :
    Leaves (q.Sets key) (p.world.store.stored key) (q.world.store.stored key) := by
  cases hq with
  | begun hj => exact .refl _
  | called i refusal =>
    rcases idle_or_commit hp i refusal with ⟨hsame, -⟩ | ⟨t, x, hi, -, -, hcommit⟩
    · rw [hsame key]
      exact .refl _
    · by_cases hkey : key = t.job.copy.key
      · subst hkey
        obtain ⟨y, hmakes, hheld⟩ := hcommit.held_eq
        rw [hcommit.stored_eq, hheld]
        refine leaves_remains hmakes (fun status hstatus => ?_) _
        exact sets_moves (.called i refusal) ⟨t, List.mem_of_getElem? hi, rfl, hstatus⟩
      · rw [hcommit.others_eq key hkey]
        exact .refl _

/-- **What changes leave of what a key held**, by induction on their steps. -/
theorem leaves_moves (hp : p.Reached) (hq : Relation.ReflTransGen Pool.Moves p q) (key : Key) :
    Leaves (q.Sets key) (p.world.store.stored key) (q.world.store.stored key) := by
  suffices h : q.Reached ∧
      Leaves (q.Sets key) (p.world.store.stored key) (q.world.store.stored key) from h.2
  induction hq with
  | refl => exact ⟨hp, .refl _⟩
  | tail hsteps hstep ih =>
    obtain ⟨hreached, hleaves⟩ := ih
    have hbefore := hleaves.mono fun status => sets_moves hstep
    exact ⟨hreached.step (.inside hstep), hbefore.trans (leaves_step hreached hstep key)⟩

/-- **No update is lost.** In every reachable pool a change has committed at most one write; its
next call commits nothing and leaves what is stored, or makes the change to the object that is
stored at that very step, as a new version and with every other key as it was; and however the
calls of all changes follow one another, they leave of each object all that others put there. -/
theorem no_update_is_lost (hp : p.Reached) :
    (∀ t ∈ p.tasks, t.commits ≤ 1) ∧
    (∀ i refusal,
      ((∀ key, (p.call i refusal).world.store.stored key = p.world.store.stored key) ∧
        (p.call i refusal).commits i = p.commits i) ∨
      ∃ t x, p.tasks[i]? = some t ∧ p.commits i = 0 ∧ (p.call i refusal).commits i = 1 ∧
        t.job.Commit p (p.call i refusal) x) ∧
    ∀ q, Relation.ReflTransGen Pool.Moves p q → ∀ key,
      Leaves (q.Sets key) (p.world.store.stored key) (q.world.store.stored key) :=
  ⟨fun _ ht => Task.commits_le_one hp ht, idle_or_commit hp,
    fun _ hq key => leaves_moves hp hq key⟩

end Reached

/-! ## Stale copies -/

/-- A change is to be made from the first version of a Scaler. The Scaler was edited so that it
leaves its resources, the write met a conflict, and the edited Scaler has been read. -/
def overtaken (change : Change) (x : Scaler) : Pool Update :=
  ((((Pool.start (.leadsTo .kubernetes)).happen (.put x)).begin
    ⟨change, (Store.empty.insert x).1, 5⟩).happen
      (.put { x with spec := { x.spec with restoreOnDelete := false } })).call 0 none
    |>.call 0 none

theorem reached_overtaken {change : Change} {x : Scaler}
    (hx : (Store.empty.insert x).2.stored (Store.empty.insert x).1.key =
      some (Store.empty.insert x).1) : (overtaken change x).Reached := by
  have hput : ((Pool.start (.leadsTo .kubernetes) : Pool Update).happen (.put x)).Reached :=
    (Pool.reached_start _).happen _
  have hbegun := hput.begin (j := ⟨change, (Store.empty.insert x).1, 5⟩)
    ⟨_, List.mem_cons_self, hx⟩
  exact ((hbegun.happen _).call 0 none).call 0 none

/-- The marker is to be put on a Scaler without finalizers. -/
def overtakenMark : Pool Update :=
  overtaken .addFinalizer (.plain "default" "nightly")

/-- The marker is to be taken off a Scaler that has a finalizer of somebody else as well. -/
def overtakenRelease : Pool Update :=
  overtaken .removeFinalizer
    ((Scaler.plain "default" "nightly").withFinalizers [Scaler.finalizer, "example.com/backup"])

/-- The key of both Scalers. -/
def overtakenKey : Key :=
  ⟨"default", "nightly"⟩

/-- The marker is put on the edited Scaler, and only then; it is taken off the edited Scaler, and
the finalizer of somebody else stays. -/
theorem overtaken_commits_edited :
    (overtakenMark.commits 0 = 0 ∧
      ∃ t x, overtakenMark.tasks[0]? = some t ∧ x.spec.restoreOnDelete = false ∧
        t.job.Commit overtakenMark (overtakenMark.call 0 none) x) ∧
    ∃ t x y, overtakenRelease.tasks[0]? = some t ∧
      x.finalizers = [Scaler.finalizer, "example.com/backup"] ∧
      t.job.Commit overtakenRelease (overtakenRelease.call 0 none) x ∧
      (overtakenRelease.call 0 none).world.store.stored overtakenKey = some y ∧
      y.finalizers = ["example.com/backup"] ∧ y.spec.restoreOnDelete = false := by
  constructor
  · have hreached : overtakenMark.Reached := reached_overtaken (by decide +kernel)
    have hcommits : (overtakenMark.call 0 none).commits 0 ≠ overtakenMark.commits 0 := by
      decide +kernel
    rcases (no_update_is_lost hreached).2.1 0 none with ⟨-, hidle⟩ | ⟨t, x, ht, hzero, -, hcommit⟩
    · exact absurd hidle hcommits
    · have hstored : (overtakenMark.world.store.stored overtakenKey).map
          (fun x => x.spec.restoreOnDelete) = some false := by decide +kernel
      have hjob : (overtakenMark.tasks[0]?.map fun t => t.job.copy.key) = some overtakenKey := by
        decide +kernel
      rw [ht] at hjob
      rw [← Option.some.inj hjob, hcommit.stored_eq] at hstored
      exact ⟨hzero, t, x, ht, Option.some.inj hstored, hcommit⟩
  · have hreached : overtakenRelease.Reached := reached_overtaken (by decide +kernel)
    have hcommits : (overtakenRelease.call 0 none).commits 0 ≠ overtakenRelease.commits 0 := by
      decide +kernel
    rcases (no_update_is_lost hreached).2.1 0 none with ⟨-, hidle⟩ | ⟨t, x, ht, -, -, hcommit⟩
    · exact absurd hidle hcommits
    · have hstored : (overtakenRelease.world.store.stored overtakenKey).map
          (fun x => (x.finalizers, x.spec.restoreOnDelete, x.isDeleting)) =
            some ([Scaler.finalizer, "example.com/backup"], false, false) := by
        decide +kernel
      have hjob : (overtakenRelease.tasks[0]?.map fun t => (t.job.copy.key, t.job.change)) =
          some (overtakenKey, .removeFinalizer) := by decide +kernel
      rw [ht] at hjob
      obtain ⟨hkey, hchange⟩ := Prod.mk.inj (Option.some.inj hjob)
      have hbefore := hcommit.stored_eq
      rw [hkey] at hbefore
      rw [hbefore] at hstored
      obtain ⟨hfinalizers, hrest⟩ := Prod.mk.inj (Option.some.inj hstored)
      obtain ⟨hedited, hlive⟩ := Prod.mk.inj hrest
      -- what is stored then is what the change is to make of the object
      obtain ⟨y, hmakes, hheld⟩ := hcommit.held_eq
      rw [hkey] at hheld
      rw [hchange] at hmakes
      cases hmakes
      rw [hfinalizers] at hheld
      exact ⟨t, x, _, ht, hfinalizers, hcommit, hheld.trans (Store.remains_of_live hlive), rfl,
        hedited⟩

end PeriodScaler
