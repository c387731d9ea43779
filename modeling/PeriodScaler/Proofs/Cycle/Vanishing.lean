import PeriodScaler.Proofs.Cycle.Writes
import PeriodScaler.Proofs.Memory.Versions

/-!
# The marker of a Scaler that vanishes

A Scaler that is gone needs no removal of its marker, so a removal should succeed whenever its
Scaler is gone at the end. It does when the Scaler is missed by the read after a conflict: the copy
from before is the answer. It does not when the Scaler is missed by a write, which says that nothing
was found, and the removal passes this on. Which of the two comes first is a matter of when the
Scaler vanishes: writes and reads take turns, and a write that meets a conflict looks at nothing.

Here a Scaler is taken away right before the call of a given number, counted from 0, and the first
writes meet conflicts; reads work and nothing else happens.

* **`settles_gone`**: the attempts on a Scaler that is not there.
* **`settles_attempt`**: the attempts on one that vanishes, by how many conflicts they meet.
* **`removal_fails_iff`**: when the removal of a marker fails, exactly.
-/

namespace PeriodScaler

open Memory (World Store)

/-! ## What a write finds -/

namespace Memory.Store

/-- What a store shows of a key to a change: what is held, and how many conflicts are to come. Reads
work. -/
structure Shows (key : Key) (held : Option Scaler) (conflicts : Nat) (s : Store) : Prop where
  stored_eq : s.stored key = held
  conflicts_eq : s.conflicts = conflicts
  readable : s.failingReads = false

/-- How many conflicts are met before a copy is written to `x`: those that are to come, and one at
least when the copy is of another version. -/
def conflictsMet (copy x : Scaler) (conflicts : Nat) : Nat :=
  if x.metadata.resourceVersion = copy.metadata.resourceVersion then conflicts
  else max conflicts 1

theorem le_conflictsMet {copy x : Scaler} {k : Nat} : k ≤ conflictsMet copy x k := by
  unfold conflictsMet
  split <;> omega

theorem conflictsMet_self (x : Scaler) (k : Nat) : conflictsMet x x k = k :=
  if_pos rfl

namespace Shows

variable {key : Key} {held : Option Scaler} {k met : Nat} {s : Store} {copy x : Scaler}

theorem removed (hs : s.Shows key held k) : (s.remove key).Shows key none k := by
  have hplace := stored_place key none s.objects key
  rw [if_pos rfl] at hplace
  exact ⟨hplace, hs.conflicts_eq, hs.readable⟩

theorem fetch (hs : s.Shows key held k) : s.fetch key = .ok held := by
  rw [Store.fetch, hs.readable, hs.stored_eq]
  rfl

/-- A conflict that is to come is met by the next write, whatever is held. -/
theorem contested (hs : s.Shows key held (k + 1)) (hkey : copy.key = key)
    (change : Scaler → Scaler) :
    ∃ s', s.write copy change = (.error (.conflict key.text), s') ∧ s'.Shows key held k := by
  have hpos : s.conflicts > 0 := by
    rw [hs.conflicts_eq]
    exact Nat.succ_pos k
  have hwrite := write_contested copy change hpos
  rw [hkey, hs.conflicts_eq] at hwrite
  exact ⟨_, hwrite, hs.stored_eq, rfl, hs.readable⟩

/-- The next write of a copy meets a conflict when any is met. -/
theorem conflict (hs : s.Shows key (some x) k) (hkey : copy.key = key)
    (hmet : conflictsMet copy x k = met + 1) (change : Scaler → Scaler) :
    ∃ s', s.write copy change = (.error (.conflict key.text), s') ∧
      s'.Shows key (some x) met := by
  unfold conflictsMet at hmet
  cases k with
  | succ k =>
    obtain rfl : k = met := by split at hmet <;> omega
    exact hs.contested hkey change
  | zero =>
    split at hmet
    · cases hmet
    · rename_i hversion
      obtain rfl : 0 = met := Nat.succ.inj hmet
      subst hkey
      have hwrite := write_stale change hs.conflicts_eq hs.stored_eq hversion
      exact ⟨_, hwrite, hs.stored_eq, hs.conflicts_eq, hs.readable⟩

/-- A write that meets no conflict is made. -/
theorem made (hs : s.Shows key (some x) k) (hkey : copy.key = key)
    (hmet : conflictsMet copy x k = 0) (change : Scaler → Scaler) :
    ∃ y, (s.write copy change).1 = .ok y := by
  unfold conflictsMet at hmet
  split at hmet
  · rename_i hversion
    subst hmet hkey
    exact ⟨_, write_current change hs.conflicts_eq hs.stored_eq hversion⟩
  · omega

end Shows

end Memory.Store

open Memory.Store (conflictsMet conflictsMet_self le_conflictsMet)

/-! ## A Scaler that is taken away -/

namespace Interference

/-- What a key holds is taken away right before the call of this number. -/
def vanishing (key : Key) (moment : Nat) : Interference World :=
  ⟨fun n w => if n = moment then { w with store := w.store.remove key } else w, fun _ => none⟩

variable {key : Key} {moment n k : Nat} {w : World} {held : Option Scaler}

theorem shows_vanishing (moment n : Nat) (hw : w.store.Shows key held k) :
    ((vanishing key moment).change n w).store.Shows key
      (if n = moment then none else held) k := by
  by_cases hn : n = moment
  · have hchange : (vanishing key moment).change n w = { w with store := w.store.remove key } :=
      if_pos hn
    rw [hchange, if_pos hn]
    exact hw.removed
  · have hchange : (vanishing key moment).change n w = w := if_neg hn
    rw [hchange, if_neg hn]
    exact hw

theorem fetch_vanishing (hw : ((vanishing key moment).change n w).store.Shows key held k) :
    (vanishing key moment).around World.answer (.fetch key) (n, w) =
      (.ok held, n + 1, (vanishing key moment).change n w) :=
  Prod.ext hw.fetch rfl

end Interference

namespace Change

open Interference (vanishing shows_vanishing fetch_vanishing)

theorem commit_vanishing (c : Change) (copy : Scaler) (key : Key) (moment n : Nat) (w : World) :
    (c.commit copy).run ((vanishing key moment).around World.answer) (n, w) =
      ((((vanishing key moment).change n w).store.write copy (c.edit copy)).1, n + 1,
        { (vanishing key moment).change n w with
          store := (((vanishing key moment).change n w).store.write copy (c.edit copy)).2 }) := by
  cases c <;> rfl

/-- How the removal of a marker ends: it succeeds, or it fails because it has missed its Scaler. -/
structure Settles (key : Key) (missed : Prop) (r : Except Cause Scaler × Nat × World) : Prop where
  fails_iff : (∃ e, r.1 = .error e) ↔ missed
  /-- A removal that fails has found nothing, and nothing is there. -/
  gone : ∀ e, r.1 = .error e → e = .notFound key.text ∧ heldUnder key r.2 = none

namespace Settles

variable {key : Key} {missed missed' : Prop} {r : Except Cause Scaler × Nat × World}

theorem of_ok {y : Scaler} (hr : r.1 = .ok y) (hmissed : ¬ missed) : Settles key missed r := by
  have hsome : ∀ e, r.1 ≠ .error e := fun e he => by cases hr.symm.trans he
  exact ⟨⟨fun ⟨e, he⟩ => absurd he (hsome e), fun h => absurd h hmissed⟩,
    fun e he => absurd he (hsome e)⟩

theorem of_missing (hr : r.1 = .error (.notFound key.text)) (hheld : heldUnder key r.2 = none)
    (hmissed : missed) : Settles key missed r := by
  refine ⟨⟨fun _ => hmissed, fun _ => ⟨_, hr⟩⟩, fun e he => ⟨?_, hheld⟩⟩
  exact Except.error.inj (he.symm.trans hr)

theorem congr (h : Settles key missed r) (hiff : missed ↔ missed') : Settles key missed' r :=
  ⟨h.fails_iff.trans hiff, h.gone⟩

end Settles

section Attempts

variable {key : Key} {moment n k met attempts left : Nat} {w : World} {copy x : Scaler}

/-- What comes after a conflict: the Scaler is missed by the read, or the attempts that are left go
on with it. -/
theorem settles_contested {missed : Prop} {held : Option Scaler} {s : Store}
    (hmarked : copy.isMarked = true)
    (hwrite : ((vanishing key moment).change n w).store.write copy (removeFinalizer.edit copy) =
      (.error (.conflict key.text), s)) (hs : s.Shows key held k)
    (hunread : n + 1 = moment ∨ held = none → ¬ missed)
    (hread : ∀ x w', n + 1 ≠ moment → held = some x → w'.store.Shows key (some x) k →
      Settles key missed ((removeFinalizer.attempt key attempts (left + 1) x).run
        ((vanishing key moment).around World.answer) (n + 2, w'))) :
    Settles key missed ((removeFinalizer.attempt key attempts (left + 2) copy).run
      ((vanishing key moment).around World.answer) (n, w)) := by
  have hcommit := commit_vanishing removeFinalizer copy key moment n w
  rw [hwrite] at hcommit
  have hnext := shows_vanishing moment (n + 1)
    (w := { (vanishing key moment).change n w with store := s }) hs
  rw [run_attempt_contested (missing_iff_marked.mpr hmarked) hcommit rfl (fetch_vanishing hnext)]
  by_cases hmoment : n + 1 = moment
  · rw [if_pos hmoment, Option.elim_none]
    exact .of_ok rfl (hunread (Or.inl hmoment))
  · rw [if_neg hmoment] at hnext ⊢
    cases held with
    | none => exact .of_ok rfl (hunread (Or.inr rfl))
    | some x => exact hread x _ hmoment rfl hnext

/-- **The attempts on a Scaler that is not there** fail when the first write meets no conflict. -/
theorem settles_gone (hkey : copy.key = key) (hmarked : copy.isMarked = true)
    (hw : ((vanishing key moment).change n w).store.Shows key none k) (hleft : k ≤ left) :
    Settles key (k = 0) ((removeFinalizer.attempt key attempts (left + 1) copy).run
      ((vanishing key moment).around World.answer) (n, w)) := by
  cases k with
  | zero =>
    subst hkey
    have hcommit := commit_vanishing removeFinalizer copy copy.key moment n w
    rw [Store.write_missing _ hw.conflicts_eq hw.stored_eq] at hcommit
    rw [run_attempt_refused (missing_iff_marked.mpr hmarked) hcommit rfl]
    exact .of_missing rfl hw.stored_eq rfl
  | succ k =>
    obtain ⟨left, rfl⟩ := Nat.exists_eq_add_of_le' (Nat.one_le_of_lt hleft)
    obtain ⟨s, hwrite, hs⟩ := hw.contested hkey (removeFinalizer.edit copy)
    refine settles_contested hmarked hwrite hs (fun _ => Nat.succ_ne_zero k) ?_
    intro x w' _ hx
    cases hx

/-- **The attempts on a Scaler that vanishes**, by induction on the conflicts that they meet. Each
conflict but the first one is met by a copy that was read, so the Scaler is missed only by a first
write that looks at it, or between the last read and the write after it. -/
theorem settles_attempt (hkey : copy.key = key) (hmarked : copy.isMarked = true)
    (hx : x.key = key) (hw : w.store.Shows key (some x) k) (hmet : conflictsMet copy x k = met)
    (hleft : met ≤ left) :
    Settles key (k = 0 ∧ moment = n ∨ x.isMarked = true ∧ moment = n + 2 * met)
      ((removeFinalizer.attempt key attempts (left + 1) copy).run
        ((vanishing key moment).around World.answer) (n, w)) := by
  induction met using Nat.strongRecOn generalizing left n w copy k with
  | ind met ih =>
    have hnow := shows_vanishing moment n hw
    by_cases hmoment : n = moment
    -- Gone before this write, which notices only when no conflict is to come.
    · have hle : k ≤ met := hmet ▸ le_conflictsMet
      rw [if_pos hmoment] at hnow
      refine (settles_gone hkey hmarked hnow (Nat.le_trans hle hleft)).congr ?_
      omega
    · rw [if_neg hmoment] at hnow
      cases met with
      | zero =>
        obtain ⟨y, hy⟩ := hnow.made hkey hmet (removeFinalizer.edit copy)
        have hcommit := commit_vanishing removeFinalizer copy key moment n w
        rw [hy] at hcommit
        rw [run_attempt_written (missing_iff_marked.mpr hmarked) hcommit]
        exact .of_ok rfl (by omega)
      | succ met =>
        obtain ⟨left, rfl⟩ := Nat.exists_eq_add_of_le' (Nat.one_le_of_lt hleft)
        obtain ⟨s, hwrite, hs⟩ := hnow.conflict hkey hmet (removeFinalizer.edit copy)
        refine settles_contested hmarked hwrite hs (fun hlost => ?_) ?_
        · have hread : n + 1 = moment := hlost.resolve_right (Option.some_ne_none x)
          omega
        -- Found by the read, so that the next copy is the one that is stored.
        · rintro y w' hread heq hw'
          obtain rfl := Option.some.inj heq
          cases hfound : x.isMarked with
          | false =>
            rw [run_attempt_satisfied (satisfied_iff_unmarked.mpr hfound)]
            refine .of_ok rfl ?_
            rintro (⟨-, hfirst⟩ | ⟨hx, -⟩)
            · exact hmoment hfirst.symm
            · cases hx
          | true =>
            refine (ih met (Nat.lt_succ_self met) hx hfound hw' (conflictsMet_self x met)
              (Nat.le_of_succ_le_succ hleft)).congr ?_
            simp only [hfound, true_and]
            omega

end Attempts

/-! ## The removal of a marker -/

/-- The Scaler is missed by a write. It is not there when the first one looks at it, or it was still
found by the last read, marked. Calls of an even number are writes. -/
def Missed (copy : Scaler) (w : World) (moment : Nat) : Prop :=
  match w.store.stored copy.key with
  | none => w.store.conflicts = 0
  | some x => w.store.conflicts = 0 ∧ moment = 0 ∨
    x.isMarked = true ∧ moment = 2 * conflictsMet copy x w.store.conflicts

/-- **When the removal of a marker fails.** With fewer conflicts to come than attempts, the removal
fails exactly when the Scaler vanishes and is missed by a write. Then nothing is there any more, as
when it is missed by a read, but the removal says that nothing was found. -/
theorem removal_fails_iff (w : World) (copy : Scaler) (attempts moment : Nat)
    (hkeyed : w.store.Keyed) (hreads : w.store.failingReads = false) (hattempts : 2 ≤ attempts)
    (hconflicts : w.store.conflicts < attempts) :
    Settles copy.key (copy.isMarked = true ∧ Missed copy w moment)
      ((removeFinalizer.apply copy attempts).run
        ((vanishing copy.key moment).around World.answer) (0, w)) := by
  cases hmarked : copy.isMarked with
  | false =>
    rw [apply_of_isSatisfied (satisfied_iff_unmarked.mpr hmarked)]
    exact .of_ok rfl fun h => Bool.noConfusion h.1
  | true =>
    obtain ⟨left, rfl⟩ : ∃ left, attempts = left + 2 := ⟨attempts - 2, by omega⟩
    have hmax : max (left + 2) 1 = left + 1 + 1 := by omega
    rw [apply, hmax, Missed]
    cases hx : w.store.stored copy.key with
    | none =>
      have hnow := shows_vanishing moment 0 ⟨hx, rfl, hreads⟩
      rw [ite_self] at hnow
      refine (settles_gone rfl hmarked hnow (Nat.le_of_lt_succ hconflicts)).congr ?_
      exact (and_iff_right rfl).symm
    | some x =>
      have hmet : conflictsMet copy x w.store.conflicts ≤ left + 1 := by
        unfold conflictsMet
        split <;> omega
      refine (settles_attempt rfl hmarked (hkeyed _ _ hx) ⟨hx, rfl, hreads⟩ rfl hmet).congr ?_
      rw [Nat.zero_add]
      exact (and_iff_right rfl).symm

/-! ## A removal that comes too late -/

/-- A Scaler that is being deleted and held back by its marker alone. -/
def withheld : Scaler :=
  let plain := Scaler.plain "default" "nightly"
  { plain with metadata :=
    { plain.metadata with
      deletionTime := some ⟨⟨⟨19877⟩, .midnight⟩⟩
      finalizers := some [Scaler.finalizer] } }

/-- A world where it is stored and so many writes meet a conflict. -/
def withheldAgainst (conflicts : Nat) : World :=
  ((World.empty (.leadsTo .kubernetes)).apply (.put withheld)).apply (.conflicts conflicts)

theorem keyed_withheldAgainst (conflicts : Nat) : (withheldAgainst conflicts).store.Keyed := by
  refine (World.advances_apply (.conflicts conflicts) _).keyed
    ((World.advances_apply (.put withheld) _).keyed fun k x hx => ?_)
  cases hx

/-- The removal of its marker there, when it vanishes right before the call of this number. -/
def release (conflicts moment : Nat) : Except Cause Scaler × Nat × World :=
  (removeFinalizer.apply (Store.withVersion 1 withheld) 5).run
    ((vanishing withheld.key moment).around World.answer) (0, withheldAgainst conflicts)

/-- It is read after one conflict and vanishes before the second write. -/
theorem withheld_missed :
    (release 1 2).1 = .error (.notFound withheld.key.text) ∧
      heldUnder withheld.key (release 1 2).2 = none := by
  have hsettles : Settles withheld.key _ (release 1 2) :=
    removal_fails_iff (withheldAgainst 1) (Store.withVersion 1 withheld) 5 2
      (keyed_withheldAgainst 1) rfl (by decide) (by decide)
  have hmissed : Missed (Store.withVersion 1 withheld) (withheldAgainst 1) 2 :=
    Or.inr ⟨by decide +kernel, by decide +kernel⟩
  obtain ⟨e, he⟩ := hsettles.fails_iff.mpr ⟨by decide +kernel, hmissed⟩
  obtain ⟨rfl, hgone⟩ := hsettles.gone e he
  exact ⟨he, hgone⟩

/-- Without a conflict it vanishes before the first write: nothing is there at the end, and the
removal is no success. -/
theorem withheld_gone_unsettled :
    heldUnder withheld.key (release 0 0).2 = none ∧ (release 0 0).1.isOk = false := by
  constructor <;> decide +kernel

end Change

end PeriodScaler
