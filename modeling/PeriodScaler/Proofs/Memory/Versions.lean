import PeriodScaler.Proofs.Memory.ScalerStore
import PeriodScaler.Proofs.Text.Decimal

/-!
# Versions over the history of a store

Whatever is done to a store, every key keeps what it held, or holds nothing, or holds a new object
with the next version. So a version belongs to one object for ever: a Scaler that was stored once is
still the stored one when the versions agree, even if its key was emptied and filled again in
between.

* **`advances_apply`**, **`advances_answer`**: what is done to a store takes it forward.
* **`History.eq_of_version`**: two Scalers of one version in the history of a store are the same.
* **`History.version_ne_next`**: the next version is new.
-/

namespace PeriodScaler.Memory

namespace Store

/-- Every Scaler stands under its own key. -/
def Keyed (s : Store) : Prop :=
  ∀ k x, s.stored k = some x → x.key = k

/-- One store comes after another one: nothing new is held, or only an object of the next version
is. -/
inductive Advances (s s' : Store) : Prop where
  | kept (hversion : s'.version = s.version)
    (hheld : ∀ k x, s'.stored k = some x → s.stored k = some x)
  | placed {fresh : Scaler} (hversion : s'.version = s.version + 1)
    (hfresh : fresh.metadata.resourceVersion = some (Text.ofNat s'.version))
    (hheld : ∀ k x, s'.stored k = some x → (x = fresh ∧ k = fresh.key) ∨ s.stored k = some x)

/-- The store after a key has been emptied. -/
def remove (key : Key) (s : Store) : Store :=
  { s with objects := place key none s.objects }

variable {s s' : Store} {key : Key}

@[simp] theorem stored_empty (k : Key) : Store.empty.stored k = none := rfl

theorem stored_place (key : Key) (held : Option Scaler) (objects : List (Key × Option Scaler))
    (k : Key) : ((place key held objects).lookup k).join =
      if k = key then held else (objects.lookup k).join := by
  split
  · rename_i heq
    rw [heq, place, Table.lookup_place]
    rfl
  · rename_i hne
    rw [place, Table.lookup_place_of_ne hne]

theorem Advances.refl (s : Store) : s.Advances s :=
  .kept rfl fun _ _ hx => hx

theorem Advances.version_le (h : s.Advances s') : s.version ≤ s'.version := by
  cases h with
  | kept hversion hheld => exact Nat.le_of_eq hversion.symm
  | placed hversion hfresh hheld => exact hversion ▸ Nat.le_succ _

theorem Advances.keyed (h : s.Advances s') (hs : s.Keyed) : s'.Keyed := by
  intro k x hx
  cases h with
  | kept hversion hheld => exact hs k x (hheld k x hx)
  | placed hversion hfresh hheld =>
    rcases hheld k x hx with ⟨rfl, hk⟩ | hx
    · exact hk.symm
    · exact hs k x hx

/-! ## What is done to a store -/

theorem advances_insert (x : Scaler) (s : Store) : s.Advances (s.insert x).2 := by
  have hfresh : (withVersion (s.version + 1) x).metadata.resourceVersion =
      some (Text.ofNat (s.version + 1)) := rfl
  refine .placed rfl hfresh fun k y hy => ?_
  have hplace := stored_place (withVersion (s.version + 1) x).key
    (some (withVersion (s.version + 1) x)) s.objects k
  have hy : (if k = (withVersion (s.version + 1) x).key then some (withVersion (s.version + 1) x)
      else s.stored k) = some y := hplace.symm.trans hy
  split at hy
  · rename_i hk
    exact Or.inl ⟨(Option.some.inj hy).symm, hk⟩
  · exact Or.inr hy

theorem advances_remove (key : Key) (s : Store) : s.Advances (s.remove key) := by
  refine .kept rfl fun k y hy => ?_
  have hplace := stored_place key none s.objects k
  have hy : (if k = key then none else s.stored k) = some y := hplace.symm.trans hy
  split at hy
  · cases hy
  · exact hy

theorem advances_mergePatch? (key : Key) (patch : Json) (s : Store) :
    s.Advances ((s.mergePatch? key patch).getD s) := by
  cases hx : s.stored key with
  | none => simpa [mergePatch?, hx] using Advances.refl s
  | some x =>
    cases hmerged : Scaler.ofJson? (x.toJson.merge patch) with
    | none => simpa [mergePatch?, hx, hmerged] using Advances.refl s
    | some merged => simpa [mergePatch?, hx, hmerged] using advances_insert merged s

/-- A write that keeps the key of what it changes. -/
theorem advances_write (hs : s.Keyed) (copy : Scaler) {change : Scaler → Scaler}
    (hchange : ∀ x, (change x).key = x.key) : s.Advances (s.write copy change).2 := by
  have hwrite := written_write copy change s
  generalize s.write copy change = r at hwrite ⊢
  cases hwrite with
  | refused hversion hsame => exact .kept hversion fun k x hx => hsame k ▸ hx
  | @made x s' hchanged =>
    have hkey : (withVersion (s.version + 1) (change x)).key = copy.key :=
      (hchange x).trans (hs copy.key x hchanged.stored_eq)
    have hfresh : (withVersion (s.version + 1) (change x)).metadata.resourceVersion =
        some (Text.ofNat s'.version) := by
      rw [hchanged.next_version]
      rfl
    refine .placed hchanged.next_version hfresh fun k y hy => ?_
    by_cases hk : k = copy.key
    · subst hk
      exact Or.inl ⟨eq_of_remains (hchanged.held_eq.symm.trans hy), hkey.symm⟩
    · exact Or.inr (hchanged.others_eq k hk ▸ hy)

end Store

open Store in
/-- **A change from outside** takes the store forward. -/
theorem World.advances_apply (e : Event) (w : World) : w.store.Advances (w.apply e).store := by
  cases e with
  | put scaler => exact advances_insert scaler w.store
  | merge key patch => exact advances_mergePatch? key patch w.store
  | workload _ _ _ _ _ => exact .refl _
  | newInstance _ _ _ _ => exact .refl _
  | failScale _ => exact .refl _
  | failList _ => exact .refl _
  | failInstance _ => exact .refl _
  | failZone _ => exact .refl _
  | conflicts _ => exact .kept rfl fun _ _ hx => hx
  | failReads => exact .kept rfl fun _ _ hx => hx

open Store in
/-- **An answer to a call** takes the store forward. -/
theorem World.advances_answer {w : World} (hw : w.store.Keyed) (c : Call) :
    w.store.Advances (World.answer c w).2.store := by
  cases c with
  | putFinalizers copy finalizers => exact advances_write hw copy fun _ => rfl
  | putStatus copy status => exact advances_write hw copy fun _ => rfl
  | fetch _ => exact .refl _
  | connect _ => exact .refl _
  | listWorkloads _ _ _ _ => exact .refl _
  | scaleWorkload _ _ _ _ _ _ => exact .refl _
  | listInstances _ _ _ _ => exact .refl _
  | startInstance _ _ _ _ => exact .refl _
  | stopInstance _ _ _ _ => exact .refl _

/-! ## Histories -/

/-- The stores that came before one, the latest in front and the first one without objects. -/
inductive History : Store → List Store → Prop where
  | start : History .empty []
  | next {s s' past} (h : History s past) (hs : s.Advances s') : History s' (s :: past)

/-- A Scaler was stored under a key. -/
def Held (stores : List Store) (key : Key) (x : Scaler) : Prop :=
  ∃ s ∈ stores, s.stored key = some x

theorem Held.cons {stores : List Store} {key : Key} {x : Scaler} (h : Held stores key x)
    (s : Store) : Held (s :: stores) key x := by
  obtain ⟨t, ht, hx⟩ := h
  exact ⟨t, List.mem_cons_of_mem s ht, hx⟩

theorem not_held_empty {key : Key} {x : Scaler} : ¬ Held [.empty] key x := by
  rintro ⟨t, ht, hx⟩
  rw [List.mem_singleton.mp ht, Store.stored_empty] at hx
  cases hx

/-- What is held is new, as the object of the present version, or was held before. -/
theorem Held.of_advances {s s' : Store} {past : List Store} {key : Key} {x : Scaler}
    (hs : s.Advances s') (hx : Held (s' :: s :: past) key x) :
    Held (s :: past) key x ∨
      (s'.version = s.version + 1 ∧ x.metadata.resourceVersion = some (Text.ofNat s'.version) ∧
        ∀ k y, s'.stored k = some y → y = x ∨ s.stored k = some y) := by
  obtain ⟨t, ht, hx⟩ := hx
  rcases List.mem_cons.mp ht with rfl | ht
  · cases hs with
    | kept hversion hheld => exact Or.inl ⟨s, List.mem_cons_self, hheld key x hx⟩
    | placed hversion hfresh hheld =>
      rcases hheld key x hx with ⟨rfl, -⟩ | hx
      · exact Or.inr ⟨hversion, hfresh, fun k y hy => (hheld k y hy).imp_left And.left⟩
      · exact Or.inl ⟨s, List.mem_cons_self, hx⟩
  · exact Or.inl ⟨t, ht, hx⟩

namespace History

variable {s : Store} {past : List Store} {key other : Key} {x y : Scaler}

theorem keyed (h : History s past) : s.Keyed := by
  induction h with
  | start =>
    intro k x hx
    rw [Store.stored_empty] at hx
    cases hx
  | next h hs ih => exact hs.keyed ih

theorem key_eq (h : History s past) (hx : Held (s :: past) key x) : x.key = key := by
  induction h with
  | start => exact absurd hx not_held_empty
  | @next s s' past h hs ih =>
    obtain ⟨t, ht, hx⟩ := hx
    rcases List.mem_cons.mp ht with rfl | ht
    · exact (History.next h hs).keyed key x hx
    · exact ih ⟨t, ht, hx⟩

/-- Every version was given by now. -/
theorem version_le (h : History s past) (hx : Held (s :: past) key x) :
    ∃ n, n ≤ s.version ∧ x.metadata.resourceVersion = some (Text.ofNat n) := by
  induction h with
  | start => exact absurd hx not_held_empty
  | @next s s' past h hs ih =>
    rcases hx.of_advances hs with hbefore | ⟨-, hnow, -⟩
    · obtain ⟨n, hn, hnx⟩ := ih hbefore
      exact ⟨n, Nat.le_trans hn hs.version_le, hnx⟩
    · exact ⟨s'.version, Nat.le_refl _, hnow⟩

/-- **The next version is new.** -/
theorem version_ne_next (h : History s past) (hx : Held (s :: past) key x) :
    x.metadata.resourceVersion ≠ some (Text.ofNat (s.version + 1)) := by
  obtain ⟨n, hn, hnx⟩ := h.version_le hx
  intro hnext
  have heq : n = s.version + 1 := Text.ofNat_injective (Option.some.inj (hnx.symm.trans hnext))
  omega

/-- **A version belongs to one Scaler**, under whichever key and however long ago it was stored. -/
theorem eq_of_version (h : History s past) (hx : Held (s :: past) key x)
    (hy : Held (s :: past) other y)
    (hversion : x.metadata.resourceVersion = y.metadata.resourceVersion) : x = y := by
  induction h with
  | start => exact absurd hx not_held_empty
  | @next s s' past h hs ih =>
    rcases hx.of_advances hs with hxbefore | ⟨hnext, hxnow, honly⟩
    · rcases hy.of_advances hs with hybefore | ⟨hnext, hynow, -⟩
      · exact ih hxbefore hybefore
      · exact absurd (hversion.trans hynow) (hnext ▸ h.version_ne_next hxbefore)
    · have hold : ∀ k, Held (s :: past) k y → y = x := fun k hbefore =>
        absurd (hversion.symm.trans hxnow) (hnext ▸ h.version_ne_next hbefore)
      obtain ⟨t, ht, hty⟩ := hy
      rcases List.mem_cons.mp ht with rfl | ht
      · rcases honly other y hty with heq | hbefore
        · exact heq.symm
        · exact (hold other ⟨s, List.mem_cons_self, hbefore⟩).symm
      · exact (hold other ⟨t, ht, hty⟩).symm

end History

end PeriodScaler.Memory
