import PeriodScaler.Memory.World
import PeriodScaler.Proofs.Memory.Table
import PeriodScaler.Proofs.Run

/-!
# What a key of the store holds

`Store.Holds` fixes the specification and the status of what a key holds, and leaves its metadata
open. Reads show it, and a write of finalizers keeps it; only a write of the status changes it, and
then to the status that was written. A write that is refused changes nothing.

* **`written_write`**: a write is refused, or made of the stored object that has the copy's version.
* **`holds_putFinalizers`**, **`holds_putStatus`**: what a write leaves behind.
-/

namespace PeriodScaler

/-- A Scaler of this key, with this specification and this status. -/
structure Scaler.Is (key : Key) (spec : Spec) (status : Option Status) (x : Scaler) : Prop where
  key_eq : x.key = key
  spec_eq : x.spec = spec
  status_eq : x.status = status

namespace Memory.Store

variable {key : Key} {spec : Spec} {status : Option Status} {s : Store}

/-! ## Writes -/

/-- What a key holds, if anything, is of this key, this specification and this status. -/
def Holds (key : Key) (spec : Spec) (status : Option Status) (s : Store) : Prop :=
  ∀ x, s.stored key = some x → x.Is key spec status

theorem Holds.fetch (h : s.Holds key spec status) {x : Scaler}
    (hx : s.fetch key = .ok (some x)) : x.Is key spec status := by
  unfold Store.fetch at hx
  split at hx
  · cases hx
  · exact h x (Except.ok.inj hx)

/-- What a write leaves of an object: nothing of one that goes away. -/
def remains (x : Scaler) : Option Scaler :=
  if isReleased x then none else some x

/-- A store after a write of a copy: the object that has the version of the copy is changed, as the
next version. -/
structure Changed (copy : Scaler) (change : Scaler → Scaler) (s : Store) (x : Scaler)
    (s' : Store) : Prop where
  stored_eq : s.stored copy.key = some x
  version_eq : x.metadata.resourceVersion = copy.metadata.resourceVersion
  next_version : s'.version = s.version + 1
  held_eq : s'.stored copy.key = remains (withVersion (s.version + 1) (change x))
  others_eq : ∀ k, k ≠ copy.key → s'.stored k = s.stored k

/-- How a write may go: it is refused and every key holds what it held, or it is made. -/
inductive Written (copy : Scaler) (change : Scaler → Scaler) (s : Store) :
    Except Cause Scaler × Store → Prop where
  | refused {e s'} (hversion : s'.version = s.version) (hsame : ∀ k, s'.stored k = s.stored k) :
    Written copy change s (.error e, s')
  | made {x s'} (hchanged : s.Changed copy change x s') :
    Written copy change s (.ok (withVersion (s.version + 1) (change x)), s')

theorem written_write (copy : Scaler) (change : Scaler → Scaler) (s : Store) :
    Written copy change s (s.write copy change) := by
  unfold write
  simp only
  split
  · exact .refused rfl fun _ => rfl
  · split
    · exact .refused rfl fun _ => rfl
    · rename_i x hx
      split
      · exact .refused rfl fun _ => rfl
      · rename_i hcopy
        refine .made ⟨hx, not_not.mp hcopy, rfl, ?_, fun k hk => ?_⟩
        · simp only [stored, place, Table.lookup_place]
          rfl
        · simp only [stored, place, Table.lookup_place_of_ne hk]

/-- A write that gives a copy has been made. -/
theorem changed_of_write {copy y : Scaler} {change : Scaler → Scaler}
    (h : (s.write copy change).1 = .ok y) :
    ∃ x, y = withVersion (s.version + 1) (change x) ∧
      s.Changed copy change x (s.write copy change).2 := by
  have hwrite := written_write copy change s
  generalize s.write copy change = r at hwrite h ⊢
  cases hwrite with
  | refused hversion hsame => cases h
  | made hchanged => exact ⟨_, (Except.ok.inj h).symm, hchanged⟩

/-- A write is a conflict as long as conflicts are arranged for. -/
theorem write_contested (copy : Scaler) (change : Scaler → Scaler) (hconflicts : s.conflicts > 0) :
    s.write copy change = (.error (.conflict copy.key.text),
      { s with attempts := s.attempts + 1, conflicts := s.conflicts - 1 }) := by
  simp only [write, if_pos hconflicts]

/-- A write to a key that holds nothing finds nothing. -/
theorem write_missing {copy : Scaler} (change : Scaler → Scaler) (hconflicts : s.conflicts = 0)
    (hnone : s.stored copy.key = none) :
    s.write copy change =
      (.error (.notFound copy.key.text), { s with attempts := s.attempts + 1 }) := by
  have hstored : ({ s with attempts := s.attempts + 1 } : Store).stored copy.key = none := hnone
  have hcalm : ¬ s.conflicts > 0 := Nat.not_lt.mpr (Nat.le_of_eq hconflicts)
  simp only [write, if_neg hcalm, hstored]

/-- A write for another version is a conflict. -/
theorem write_stale {copy x : Scaler} (change : Scaler → Scaler) (hconflicts : s.conflicts = 0)
    (hx : s.stored copy.key = some x)
    (hversion : x.metadata.resourceVersion ≠ copy.metadata.resourceVersion) :
    s.write copy change =
      (.error (.conflict copy.key.text), { s with attempts := s.attempts + 1 }) := by
  have hstored : ({ s with attempts := s.attempts + 1 } : Store).stored copy.key = some x := hx
  have hnone : ¬ s.conflicts > 0 := Nat.not_lt.mpr (Nat.le_of_eq hconflicts)
  simp only [write, if_neg hnone, hstored, if_pos hversion]

/-- A write for the version that is stored is made. -/
theorem write_current {copy x : Scaler} (change : Scaler → Scaler) (hconflicts : s.conflicts = 0)
    (hx : s.stored copy.key = some x)
    (hversion : x.metadata.resourceVersion = copy.metadata.resourceVersion) :
    (s.write copy change).1 = .ok (withVersion (s.version + 1) (change x)) := by
  have hstored : ({ s with attempts := s.attempts + 1 } : Store).stored copy.key = some x := hx
  have hnone : ¬ s.conflicts > 0 := Nat.not_lt.mpr (Nat.le_of_eq hconflicts)
  simp only [write, if_neg hnone, hstored, if_neg (not_not.mpr hversion)]

/-- A live object stays. -/
theorem remains_of_live {x : Scaler} (hlive : x.isDeleting = false) : remains x = some x := by
  simp only [remains, isReleased, hlive, Bool.false_and, Bool.false_eq_true, if_false]

theorem eq_of_remains {x y : Scaler} (h : remains x = some y) : y = x := by
  unfold remains at h
  split at h
  · cases h
  · exact (Option.some.inj h).symm

/-- A write of a copy of this key that keeps the key and the specification. -/
theorem Holds.write (h : s.Holds key spec status) {copy : Scaler} (hcopy : copy.key = key)
    {change : Scaler → Scaler} {after : Option Status}
    (hchange : ∀ n x, x.Is key spec status → (withVersion n (change x)).Is key spec after) :
    (∃ e, (s.write copy change).1 = .error e ∧ (s.write copy change).2.Holds key spec status) ∨
      ∃ y, (s.write copy change).1 = .ok y ∧ y.Is key spec after ∧
        (s.write copy change).2.Holds key spec after := by
  have hwrite := written_write copy change s
  generalize s.write copy change = r at hwrite ⊢
  cases hwrite with
  | refused hversion hsame => exact Or.inl ⟨_, rfl, fun y hy => h y (hsame key ▸ hy)⟩
  | made hchanged =>
    have hheld := hchanged.held_eq
    have hnew := hchange (s.version + 1) _ (h _ (hcopy ▸ hchanged.stored_eq))
    rw [hcopy] at hheld
    refine Or.inr ⟨_, rfl, hnew, fun y hy => ?_⟩
    obtain rfl := eq_of_remains (hheld.symm.trans hy)
    exact hnew

/-- **A write of finalizers** keeps specification and status. -/
theorem holds_putFinalizers (h : s.Holds key spec status) {copy : Scaler} (hcopy : copy.key = key)
    (finalizers : List String) :
    (∃ e, (s.putFinalizers copy finalizers).1 = .error e ∧
      (s.putFinalizers copy finalizers).2.Holds key spec status) ∨
    ∃ y, (s.putFinalizers copy finalizers).1 = .ok y ∧ y.Is key spec status ∧
      (s.putFinalizers copy finalizers).2.Holds key spec status :=
  h.write hcopy fun _ _ hx => ⟨hx.key_eq, hx.spec_eq, hx.status_eq⟩

/-- **A write of the status** puts it in the place of the one before, or is refused. -/
theorem holds_putStatus (h : s.Holds key spec status) {copy : Scaler} (hcopy : copy.key = key)
    (after : Status) :
    (∃ e, (s.putStatus copy after).1 = .error e ∧
      (s.putStatus copy after).2.Holds key spec status) ∨
    ∃ y, (s.putStatus copy after).1 = .ok y ∧ y.Is key spec (some after) ∧
      (s.putStatus copy after).2.Holds key spec (some after) :=
  h.write hcopy fun _ _ hx => ⟨hx.key_eq, hx.spec_eq, rfl⟩

end Memory.Store

end PeriodScaler
