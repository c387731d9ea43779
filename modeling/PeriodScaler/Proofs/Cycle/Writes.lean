import PeriodScaler.Proofs.Cycle.Upkeep

/-!
# What a change leaves of its Scaler

What a key holds after a change of its Scaler, when something may happen before every call and any
call may be refused. The less happens to the Scaler from outside, the more is known: if nobody else
writes it, a change that fails leaves it as it was; if nobody touches its finalizers, all but the
marker are left when the marker is released; and whatever is done to it, there is no marker then.

* **`calls_hold`**: calls that write no Scaler keep what is known of a key.
* **`ensures_alone`**: what a change leaves when nobody else writes the Scaler.
* **`ensures_unmarked`**: a marker that was released is not there, whatever others do.
* **`ensures_others`**: the finalizers that are left are those of others.
-/

namespace PeriodScaler

open Memory (World Store)

/-- What a key holds in the world behind a count of calls. -/
def heldUnder (key : Key) (s : Nat × World) : Option Scaler :=
  s.2.store.stored key

/-- The finalizers of a Scaler, and whether it is being deleted. -/
def Scaler.marks (x : Scaler) : List String × Bool :=
  (x.finalizers, x.isDeleting)

/-- What is held, if anything, is of this key. -/
def IsOf (key : Key) (held : Option Scaler) : Prop :=
  ∀ x, held = some x → x.key = key

namespace Interference

/-- Nothing that happens makes `P` wrong of what the key holds. -/
def Preserves (key : Key) (P : Option Scaler → Prop) (i : Interference World) : Prop :=
  ∀ n w, P (w.store.stored key) → P ((i.change n w).store.stored key)

/-- Nobody else writes what the key holds. -/
def Leaves (key : Key) (i : Interference World) : Prop :=
  ∀ n w, (i.change n w).store.stored key = w.store.stored key

/-- Nobody else puts a Scaler under a key that is not its own. -/
def KeepsKey (key : Key) (i : Interference World) : Prop :=
  i.Preserves key (IsOf key)

/-- Nobody else puts a Scaler under the key or takes it away, changes its finalizers or deletes
it. -/
def KeepsMarks (key : Key) (i : Interference World) : Prop :=
  ∀ n w, ((i.change n w).store.stored key).map Scaler.marks =
    (w.store.stored key).map Scaler.marks

theorem Leaves.preserves {key : Key} {i : Interference World} (hi : i.Leaves key)
    (P : Option Scaler → Prop) : i.Preserves key P := by
  intro n w hP
  rwa [hi n w]

end Interference

section Calls

variable {key : Key} {i : Interference World} {s : Nat × World}

/-- **Calls that write no Scaler** keep what is known of a key. -/
theorem calls_hold {α : Type} {P : Option Scaler → Prop} (hi : i.Preserves key P) {p : Work α}
    (hp : p.Calls fun c : Call => c.writes = false) :
    p.Ensures (i.around World.answer) (fun s => P (heldUnder key s))
      fun _ s => P (heldUnder key s) := by
  refine hp.ensures fun c hc s hs => ?_
  have hchanged := hi s.1 s.2 hs
  rcases i.around_cases (h := World.answer) c s.1 s.2 with ⟨e, hcall⟩ | hcall
  · rw [hcall]
    exact hchanged
  · rw [hcall, heldUnder]
    simp only
    rw [store_answer_of_not_writes hc]
    exact hchanged

/-- A read changes nothing by itself. -/
theorem fetch_state : (i.around World.answer (.fetch key) s).2 = (s.1 + 1, i.change s.1 s.2) := by
  rcases i.around_cases (h := World.answer) (.fetch key) s.1 s.2 with ⟨e, hcall⟩ | hcall
  · rw [hcall]
  · rw [hcall]
    rfl

theorem heldUnder_fetch : heldUnder key (i.around World.answer (.fetch key) s).2 =
    (i.change s.1 s.2).store.stored key := by
  rw [fetch_state]
  rfl

/-- A read that succeeds shows what the key holds. -/
theorem fetch_answer {held : Option Scaler}
    (h : (i.around World.answer (.fetch key) s).1 = .ok held) :
    (i.change s.1 s.2).store.stored key = held := by
  rcases i.around_cases (h := World.answer) (.fetch key) s.1 s.2 with ⟨e, hcall⟩ | hcall
  · rw [hcall] at h
    cases h
  · rw [hcall] at h
    simp only [World.answer, Store.fetch] at h
    split at h
    · cases h
    · exact Except.ok.inj h

/-- The first call of a cycle fails, or shows what the key holds. -/
theorem fetch_cases {x : Scaler} (hx : (i.change s.1 s.2).store.stored key = some x) :
    (∃ e, i.around World.answer (.fetch key) s = (.error e, s.1 + 1, i.change s.1 s.2)) ∨
      i.around World.answer (.fetch key) s = (.ok (some x), s.1 + 1, i.change s.1 s.2) := by
  have hstate : (i.around World.answer (.fetch key) s).2 = (s.1 + 1, i.change s.1 s.2) :=
    fetch_state
  cases hanswer : (i.around World.answer (.fetch key) s).1 with
  | error e => exact Or.inl ⟨e, Prod.ext hanswer hstate⟩
  | ok held =>
    obtain rfl := (fetch_answer hanswer).symm.trans hx
    exact Or.inr (Prod.ext hanswer hstate)

/-- The write of a change is refused, or answered by the store. -/
theorem commit_around (c : Change) (copy : Scaler) :
    (∃ e, (c.commit copy).run (i.around World.answer) s =
      (.error e, s.1 + 1, i.change s.1 s.2)) ∨
    (c.commit copy).run (i.around World.answer) s =
      (((i.change s.1 s.2).store.write copy (c.edit copy)).1, s.1 + 1,
        { i.change s.1 s.2 with
          store := ((i.change s.1 s.2).store.write copy (c.edit copy)).2 }) := by
  cases c with
  | addFinalizer =>
    exact i.around_cases (h := World.answer)
      (.putFinalizers copy (copy.finalizers ++ [Scaler.finalizer])) s.1 s.2
  | removeFinalizer =>
    exact i.around_cases (h := World.answer)
      (.putFinalizers copy (Change.unmarked copy.finalizers)) s.1 s.2
  | setStatus status => exact i.around_cases (h := World.answer) (.putStatus copy status) s.1 s.2

/-- A write that succeeds has changed what the key held then. -/
theorem commit_ok {c : Change} {copy y : Scaler}
    (h : ((c.commit copy).run (i.around World.answer) s).1 = .ok y) :
    ∃ x, y = Store.withVersion ((i.change s.1 s.2).store.version + 1) (c.edit copy x) ∧
      (i.change s.1 s.2).store.Changed copy (c.edit copy) x
        ((c.commit copy).run (i.around World.answer) s).2.2.store := by
  rcases commit_around (i := i) (s := s) c copy with ⟨e, hrun⟩ | hrun
  · rw [hrun] at h
    cases h
  · rw [hrun] at h ⊢
    exact Store.changed_of_write h

/-- A write that fails has changed nothing. -/
theorem commit_error {c : Change} {copy : Scaler} {e : Cause}
    (h : ((c.commit copy).run (i.around World.answer) s).1 = .error e) :
    heldUnder key ((c.commit copy).run (i.around World.answer) s).2 =
      (i.change s.1 s.2).store.stored key := by
  rcases commit_around (i := i) (s := s) c copy with ⟨e, hrun⟩ | hrun
  · rw [hrun]
    rfl
  · rw [hrun] at h ⊢
    have hwrite := Store.written_write copy (c.edit copy) (i.change s.1 s.2).store
    simp only [heldUnder]
    generalize (i.change s.1 s.2).store.write copy (c.edit copy) = r at hwrite h ⊢
    cases hwrite with
    | refused hversion hsame => exact hsame key
    | made hchanged => cases h

end Calls

namespace Change

variable {key : Key} {i : Interference World}

/-! ## Nobody else writes -/

/-- How a change of `x` ends when nobody else writes: its answer, and what the key holds. -/
inductive EndsAlone (c : Change) (x : Scaler) : Except Cause Scaler → Option Scaler → Prop where
  | satisfied (h : c.isSatisfied x = true) : EndsAlone c x (.ok x) (some x)
  | committed {n} (h : c.isSatisfied x = false) :
    EndsAlone c x (.ok (Store.withVersion n (c.made x)))
      (Store.remains (Store.withVersion n (c.made x)))
  | failed {e} : EndsAlone c x (.error e) (some x)

theorem EndsAlone.of_eq {c : Change} {x : Scaler} {e : Cause} {held : Option Scaler}
    (h : held = some x) : c.EndsAlone x (.error e) held :=
  h ▸ .failed

theorem upholds_alone (hi : i.Leaves key) (c : Change) {x : Scaler} (hx : x.key = key) :
    c.Upholds key (i.around World.answer) (fun copy s => copy = x ∧ heldUnder key s = some x)
      fun answer s => c.EndsAlone x answer (heldUnder key s) where
  done := by
    rintro copy s ⟨rfl, hs⟩ hsatisfied
    rw [hs]
    exact .satisfied hsatisfied
  fail := by
    rintro copy s e ⟨rfl, hs⟩
    exact .of_eq hs
  written := by
    rintro copy s y ⟨rfl, hs⟩ hmissing hy
    obtain ⟨z, rfl, hchanged⟩ := commit_ok hy
    have hstored := hchanged.stored_eq
    rw [hx, hi s.1 s.2] at hstored
    obtain rfl : copy = z := Option.some.inj (hs.symm.trans hstored)
    have hheld := hchanged.held_eq
    rw [hx] at hheld
    rw [heldUnder, hheld]
    exact .committed hmissing
  refused := by
    rintro copy s e ⟨rfl, hs⟩ - he
    rw [commit_error he, hi s.1 s.2]
    exact ⟨rfl, hs⟩
  found := by
    rintro copy s y ⟨rfl, hs⟩ - hy
    have hread := fetch_answer hy
    rw [hi s.1 s.2] at hread
    rw [heldUnder_fetch, hi s.1 s.2]
    exact ⟨Option.some.inj (hread.symm.trans hs), hs⟩
  gone := by
    rintro copy s ⟨rfl, hs⟩ - hy
    have hread := fetch_answer hy
    rw [hi s.1 s.2] at hread
    cases hread.symm.trans hs
  unread := by
    rintro copy s e ⟨rfl, hs⟩ - -
    rw [heldUnder_fetch, hi s.1 s.2]
    exact ⟨rfl, hs⟩

/-- **What a change leaves when nobody else writes the Scaler.** -/
theorem ensures_alone (hi : i.Leaves key) (c : Change) {x : Scaler} (hx : x.key = key)
    (attempts : Nat) : (c.apply x attempts).Ensures (i.around World.answer)
      (fun s => heldUnder key s = some x) fun answer s => c.EndsAlone x answer (heldUnder key s) :=
  fun s hs => (upholds_alone hi c hx).apply hx attempts s ⟨rfl, hs⟩

/-! ## Releasing the marker -/

theorem missing_iff_marked {x : Scaler} :
    removeFinalizer.isSatisfied x = false ↔ x.isMarked = true := by
  simp [isSatisfied]

theorem satisfied_iff_unmarked {x : Scaler} :
    removeFinalizer.isSatisfied x = true ↔ x.isMarked = false := by
  simp [isSatisfied]

theorem not_isMarked_edit (copy x : Scaler) (n : Nat) :
    (Store.withVersion n (removeFinalizer.edit copy x)).isMarked = false := by
  simp [Scaler.isMarked, Scaler.finalizers, Store.withVersion, edit, unmarked]

/-- A copy is marked, or it is what the key holds. -/
theorem upholds_unmarked (hi : i.KeepsKey key) : removeFinalizer.Upholds key
    (i.around World.answer)
    (fun copy s => copy.key = key ∧ IsOf key (heldUnder key s) ∧
      (copy.isMarked = true ∨ heldUnder key s = some copy))
    fun answer s => ∀ y, answer = .ok y → ∀ x, heldUnder key s = some x → x.isMarked = false where
  done := by
    rintro copy s ⟨-, -, hcopy⟩ hsatisfied y - x hx
    have hunmarked : copy.isMarked = false := satisfied_iff_unmarked.mp hsatisfied
    rcases hcopy with hmarked | hheld
    · cases hmarked.symm.trans hunmarked
    · obtain rfl := Option.some.inj (hheld.symm.trans hx)
      exact hunmarked
  fail := by
    intro copy s e _ y hy
    cases hy
  written := by
    rintro copy s y ⟨hkey, -⟩ - hy _ - x hx
    obtain ⟨z, rfl, hchanged⟩ := commit_ok hy
    have hheld := hchanged.held_eq
    rw [hkey] at hheld
    obtain rfl := Store.eq_of_remains (hheld.symm.trans hx)
    exact not_isMarked_edit copy z _
  refused := by
    rintro copy s e ⟨hkey, hs, -⟩ hmissing he
    rw [commit_error he]
    exact ⟨hkey, hi s.1 s.2 hs, Or.inl (missing_iff_marked.mp hmissing)⟩
  found := by
    rintro copy s x ⟨-, hs, -⟩ - hx
    have hread := fetch_answer hx
    have hchanged := hi s.1 s.2 hs
    rw [heldUnder_fetch]
    exact ⟨hchanged x hread, hchanged, Or.inr hread⟩
  gone := by
    rintro copy s - - hnone y - x hx
    rw [heldUnder_fetch, fetch_answer hnone] at hx
    cases hx
  unread := by
    rintro copy s e ⟨hkey, hs, -⟩ hmissing -
    rw [heldUnder_fetch]
    exact ⟨hkey, hi s.1 s.2 hs, Or.inl (missing_iff_marked.mp hmissing)⟩

/-- **A marker that was released is not there**, whatever others do. -/
theorem ensures_unmarked (hi : i.KeepsKey key) {x : Scaler} (hkey : x.key = key)
    (hmarked : x.isMarked = true) (attempts : Nat) :
    (removeFinalizer.apply x attempts).Ensures (i.around World.answer)
      (fun s => IsOf key (heldUnder key s))
      fun answer s => ∀ y, answer = .ok y → ∀ x, heldUnder key s = some x → x.isMarked = false :=
  fun s hs => (upholds_unmarked hi).apply hkey attempts s ⟨hkey, hs, Or.inl hmarked⟩

/-- What is left of a Scaler that is being deleted, when these finalizers are left. -/
def remaining (finalizers : List String) : Option (List String × Bool) :=
  if finalizers = [] then none else some (finalizers, true)

theorem map_remains_edit {copy x : Scaler} (n : Nat) (hdeleting : x.isDeleting = true) :
    (Store.remains (Store.withVersion n (removeFinalizer.edit copy x))).map
      Scaler.marks = remaining (unmarked copy.finalizers) := by
  have hfinalizers : (Store.withVersion n (removeFinalizer.edit copy x)).finalizers =
      unmarked copy.finalizers := rfl
  have hstill : (Store.withVersion n (removeFinalizer.edit copy x)).isDeleting = true := hdeleting
  unfold Store.remains Store.isReleased remaining
  rw [hfinalizers, hstill]
  by_cases hnone : unmarked copy.finalizers = []
  · rw [hnone]
    rfl
  · have hsome : (unmarked copy.finalizers).isEmpty = false := by
      rw [← Bool.not_eq_true, List.isEmpty_iff]
      exact hnone
    simp only [hsome, Bool.and_false, Bool.false_eq_true, if_false, if_neg hnone, Option.map_some,
      Scaler.marks, hfinalizers, hstill]

/-- What a key holds is of that key and being deleted, with these finalizers. -/
def AwaitsAll (key : Key) (finalizers : List String) (held : Option Scaler) : Prop :=
  IsOf key held ∧ held.map Scaler.marks = some (finalizers, true)

/-- Every copy has the finalizers of the first one. -/
theorem upholds_others {finalizers : List String} (hi : i.Preserves key (AwaitsAll key finalizers))
    (hmarked : Scaler.finalizer ∈ finalizers) :
    removeFinalizer.Upholds key (i.around World.answer)
      (fun copy s => copy.key = key ∧ copy.finalizers = finalizers ∧
        AwaitsAll key finalizers (heldUnder key s))
      fun answer s => ∀ y, answer = .ok y →
        (heldUnder key s).map Scaler.marks = remaining (unmarked finalizers) where
  done := by
    rintro copy s ⟨-, hcopy, -⟩ hsatisfied
    have hunmarked : copy.isMarked = false := satisfied_iff_unmarked.mp hsatisfied
    rw [Scaler.isMarked, hcopy, List.contains_iff_mem.mpr hmarked] at hunmarked
    cases hunmarked
  fail := by
    intro copy s e _ y hy
    cases hy
  written := by
    rintro copy s y ⟨hkey, hcopy, hs⟩ - hy _ -
    obtain ⟨z, rfl, hchanged⟩ := commit_ok hy
    have hheld := hchanged.held_eq
    have hstored := hchanged.stored_eq
    obtain ⟨-, hmarks⟩ := hi s.1 s.2 hs
    rw [hkey] at hheld hstored
    rw [hstored] at hmarks
    have hdeleting : z.isDeleting = true := (Prod.mk.inj (Option.some.inj hmarks)).2
    rw [heldUnder, hheld, map_remains_edit _ hdeleting, hcopy]
  refused := by
    rintro copy s e ⟨hkey, hcopy, hs⟩ - he
    rw [commit_error he]
    exact ⟨hkey, hcopy, hi s.1 s.2 hs⟩
  found := by
    rintro copy s x ⟨-, -, hs⟩ - hx
    have hread := fetch_answer hx
    have hchanged := hi s.1 s.2 hs
    obtain ⟨hkeys, hmarks⟩ := hchanged
    rw [hread] at hmarks
    rw [heldUnder_fetch]
    exact ⟨hkeys x hread, (Prod.mk.inj (Option.some.inj hmarks)).1, hi s.1 s.2 hs⟩
  gone := by
    rintro copy s ⟨-, -, hs⟩ - hnone
    obtain ⟨-, hmarks⟩ := hi s.1 s.2 hs
    rw [fetch_answer hnone] at hmarks
    cases hmarks
  unread := by
    rintro copy s e ⟨hkey, hcopy, hs⟩ - -
    rw [heldUnder_fetch]
    exact ⟨hkey, hcopy, hi s.1 s.2 hs⟩

/-- **The finalizers that are left are those of others**, and the Scaler is gone when there are
none. -/
theorem ensures_others {x : Scaler} (hi : i.Preserves key (AwaitsAll key x.finalizers))
    (hkey : x.key = key) (hmarked : x.isMarked = true) (attempts : Nat) :
    (removeFinalizer.apply x attempts).Ensures (i.around World.answer)
      (fun s => AwaitsAll key x.finalizers (heldUnder key s))
      fun answer s => ∀ y, answer = .ok y →
        (heldUnder key s).map Scaler.marks = remaining (unmarked x.finalizers) :=
  fun s hs => (upholds_others hi (List.contains_iff_mem.mp hmarked)).apply hkey attempts s
    ⟨hkey, rfl, hs⟩

end Change

end PeriodScaler
