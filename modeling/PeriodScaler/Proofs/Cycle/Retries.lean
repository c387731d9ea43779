import Mathlib.Data.List.Chain
import PeriodScaler.Memory.World
import PeriodScaler.Proofs.Answers
import PeriodScaler.Proofs.Cycle.Upkeep

/-!
# A change retries within bounds

A change is tried again only after a conflict, and not more often than it may be. What is said here
holds of any store: the exchanges of a change follow from one another (`Change.Follows`), so each
write but the last one has met a conflict, and a read stands alone between two writes; the attempts
count the writes. The error that stands behind the last attempt is never given: an error is the
refusal of the last call, or the Scaler was found to be gone.

A store is trusted with one thing only, that a write which is made leaves what was written
(`Carries`). Then a copy that a change gives has the change. The exception is a marker that was to
go and whose Scaler is gone: the copy from before is given, marker and all.

* **`Tries.isChain`**: each exchange follows from the one before it.
* **`within_attempt`**: the writes of a change, and when a conflict is the end.
* **`retries_bounded`**: all of this for every run of a change, whatever answers it.
-/

namespace PeriodScaler

open Memory (World)

/-! ## Exchanges with a store -/

namespace Interface.Exchange

/-- Why a call was refused, if it was. -/
def cause? (e : collaborators.Exchange) : Option Cause :=
  match (e.answer : Except Cause e.call.Result) with
  | .error cause => some cause
  | .ok _ => none

/-- Whether an exchange is a write of a Scaler. -/
def isWrite (e : collaborators.Exchange) : Bool :=
  Call.writes e.call

/-- Whether an exchange is a write that met a conflict. -/
def meetsConflict (e : collaborators.Exchange) : Bool :=
  e.isWrite && e.cause?.any Cause.isConflict

/-- A write that is made is answered with an object that has what was written. -/
def Carries : collaborators.Exchange → Prop
  | ⟨.putFinalizers _ finalizers, .ok y⟩ => y.finalizers = finalizers
  | ⟨.putStatus _ status, .ok y⟩ => y.status = some status
  | _ => True

/-- The last of some exchanges, when two more stand in front of them. -/
theorem last_of_cons_cons {a b e : collaborators.Exchange} {rest : List collaborators.Exchange}
    (h : (a :: b :: rest).getLast? = some e) : b = e ∨ rest.getLast? = some e := by
  cases rest with
  | nil => exact Or.inl (Option.some.inj h)
  | cons x rest => exact Or.inr h

theorem last_cons_cons {a b e : collaborators.Exchange} {rest : List collaborators.Exchange}
    (h : rest.getLast? = some e) : (a :: b :: rest).getLast? = some e := by
  cases rest with
  | nil => cases h
  | cons x rest => exact h

end Interface.Exchange

open Interface.Exchange

/-- The store in memory leaves what was written. -/
theorem carries_answer (c : Call) (w : World) :
    Carries (⟨c, (World.answer c w).1⟩ : collaborators.Exchange) := by
  cases c with
  | putFinalizers copy finalizers =>
    cases hwrite : (w.store.putFinalizers copy finalizers).1 with
    | error e =>
      have hanswer : (World.answer (.putFinalizers copy finalizers) w).1 = .error e := hwrite
      rw [hanswer]
      trivial
    | ok y =>
      have hanswer : (World.answer (.putFinalizers copy finalizers) w).1 = .ok y := hwrite
      obtain ⟨x, rfl, -⟩ := Memory.Store.changed_of_write hwrite
      rw [hanswer]
      rfl
  | putStatus copy status =>
    cases hwrite : (w.store.putStatus copy status).1 with
    | error e =>
      have hanswer : (World.answer (.putStatus copy status) w).1 = .error e := hwrite
      rw [hanswer]
      trivial
    | ok y =>
      have hanswer : (World.answer (.putStatus copy status) w).1 = .ok y := hwrite
      obtain ⟨x, rfl, -⟩ := Memory.Store.changed_of_write hwrite
      rw [hanswer]
      rfl
  | _ => trivial

namespace Change

variable {c : Change} {key : Key} {copy : Scaler} {l : List collaborators.Exchange}
  {answer : Except Cause Scaler}

/-! ## The write of a change -/

@[simp] theorem isWrite_exchange : (c.exchange copy answer).isWrite = true := by
  cases c <;> rfl

@[simp] theorem cause?_exchange_ok {y : Scaler} : (c.exchange copy (.ok y)).cause? = none := by
  cases c <;> rfl

@[simp] theorem cause?_exchange_error {cause : Cause} :
    (c.exchange copy (.error cause)).cause? = some cause := by
  cases c <;> rfl

@[simp] theorem meetsConflict_exchange_ok {y : Scaler} :
    (c.exchange copy (.ok y)).meetsConflict = false := by
  cases c <;> rfl

@[simp] theorem meetsConflict_exchange_error {cause : Cause} :
    (c.exchange copy (.error cause)).meetsConflict = cause.isConflict := by
  cases c <;> rfl

/-- What a write of the change leaves has the change. -/
theorem isSatisfied_of_carries {y : Scaler} (h : (c.exchange copy (.ok y)).Carries) :
    c.isSatisfied y = true := by
  cases c with
  | addFinalizer =>
    have hy : y.finalizers = copy.finalizers ++ [Scaler.finalizer] := h
    rw [isSatisfied, Scaler.isMarked, hy, List.contains_iff_mem]
    exact List.mem_append_right _ (List.mem_singleton.mpr rfl)
  | removeFinalizer =>
    have hy : y.finalizers = unmarked copy.finalizers := h
    have hnone : Scaler.finalizer ∉ unmarked copy.finalizers := by simp [unmarked]
    rw [isSatisfied, Scaler.isMarked, hy, Bool.not_eq_true', ← Bool.not_eq_true,
      List.contains_iff_mem]
    exact hnone
  | setStatus status =>
    have hy : y.status = some status := h
    rw [isSatisfied, hy]
    exact beq_self_eq_true _

/-! ## What follows what -/

/-- What may come right after an exchange: a read after a write that met a conflict, and the write
of what was read. -/
inductive Follows (c : Change) (key : Key) :
    collaborators.Exchange → collaborators.Exchange → Prop where
  | read {x : Scaler} {cause : Cause} {found : Except Cause (Option Scaler)}
    (h : cause.isConflict = true) :
    Follows c key (c.exchange x (.error cause)) ⟨.fetch key, found⟩
  | write {x : Scaler} {first : Except Cause Scaler} (h : c.isSatisfied x = false) :
    Follows c key ⟨.fetch key, .ok (some x)⟩ (c.exchange x first)

theorem isWrite_of_follows {e e' : collaborators.Exchange} (h : c.Follows key e e') :
    e.isWrite = true ∨ e'.isWrite = true := by
  cases h with
  | read h => exact Or.inl isWrite_exchange
  | write h => exact Or.inr isWrite_exchange

/-- Nothing follows a refusal but the read after a conflict. -/
theorem meetsConflict_of_follows {e e' : collaborators.Exchange} (h : c.Follows key e e')
    (hcause : e.cause? ≠ none) : e.meetsConflict = true := by
  cases h with
  | read h => exact meetsConflict_exchange_error.trans h
  | write h => exact absurd rfl hcause

namespace Tries

/-- The first call writes the copy, which lacks the change. -/
theorem opens (h : c.Tries key copy l answer) :
    l = [] ∨ c.isSatisfied copy = false ∧ ∃ first rest, l = c.exchange copy first :: rest := by
  cases h with
  | satisfied h => exact Or.inl rfl
  | written h => exact Or.inr ⟨h, _, _, rfl⟩
  | refused h => exact Or.inr ⟨h, _, _, rfl⟩
  | unread h he => exact Or.inr ⟨h, _, _, rfl⟩
  | gone h he => exact Or.inr ⟨h, _, _, rfl⟩
  | again h he hrest => exact Or.inr ⟨h, _, _, rfl⟩

/-- **Each exchange follows** from the one before it. -/
theorem isChain (h : c.Tries key copy l answer) : l.IsChain (c.Follows key) := by
  induction h with
  | satisfied h => exact .nil
  | written h => exact .singleton _
  | refused h => exact .singleton _
  | unread h he => exact .cons_cons (.read he) (.singleton _)
  | gone h he => exact .cons_cons (.read he) (.singleton _)
  | again h he hrest ih =>
    refine .cons_cons (.read he) ?_
    rcases hrest.opens with rfl | ⟨hlatest, first, rest, rfl⟩
    · exact .singleton _
    · exact .cons_cons (.write hlatest) ih

/-! ## How it ends -/

/-- The refusal of the last call is the answer. -/
theorem answer_of_refused (h : c.Tries key copy l answer) {e : collaborators.Exchange}
    {cause : Cause} (hlast : l.getLast? = some e) (hcause : e.cause? = some cause) :
    answer = .error cause := by
  induction h with
  | satisfied h => cases hlast
  | written h =>
    obtain rfl := Option.some.inj hlast
    cases cause?_exchange_ok.symm.trans hcause
  | refused h =>
    obtain rfl := Option.some.inj hlast
    cases cause?_exchange_error.symm.trans hcause
    rfl
  | unread h he =>
    obtain rfl := Option.some.inj hlast
    cases hcause
    rfl
  | gone h he =>
    obtain rfl := Option.some.inj hlast
    cases hcause
  | again h he hrest ih =>
    rcases last_of_cons_cons hlast with rfl | hlast
    · cases hcause
    · exact ih hlast

/-- An error is the refusal of the last call, or the Scaler was found to be gone. -/
theorem refused_of_error (h : c.Tries key copy l answer) {cause : Cause}
    (hanswer : answer = .error cause) :
    ∃ e, l.getLast? = some e ∧ (e.cause? = some cause ∨
      c ≠ removeFinalizer ∧ e = ⟨.fetch key, .ok none⟩ ∧ cause = .notFound key.text) := by
  induction h with
  | satisfied h => cases hanswer
  | written h => cases hanswer
  | refused h =>
    cases hanswer
    exact ⟨_, rfl, Or.inl cause?_exchange_error⟩
  | unread h he =>
    cases hanswer
    exact ⟨_, rfl, Or.inl rfl⟩
  | gone h he =>
    split at hanswer
    · cases hanswer
    · rename_i hkept
      cases hanswer
      exact ⟨_, rfl, Or.inr ⟨hkept, rfl, rfl⟩⟩
  | again h he hrest ih =>
    obtain ⟨e, hlast, hwhy⟩ := ih hanswer
    exact ⟨e, last_cons_cons hlast, hwhy⟩

/-- A copy that is the answer has the change, or its Scaler, that was to lose the marker, was found
to be gone. -/
theorem isSatisfied_of_ok (h : c.Tries key copy l answer) (hl : ∀ e ∈ l, e.Carries) {y : Scaler}
    (hanswer : answer = .ok y) :
    c.isSatisfied y = true ∨ c = removeFinalizer ∧ l.getLast? = some ⟨.fetch key, .ok none⟩ := by
  induction h with
  | satisfied h =>
    cases hanswer
    exact Or.inl h
  | written h =>
    cases hanswer
    exact Or.inl (isSatisfied_of_carries (hl _ (List.mem_singleton.mpr rfl)))
  | refused h => cases hanswer
  | unread h he => cases hanswer
  | gone h he =>
    split at hanswer
    · rename_i hremove
      exact Or.inr ⟨hremove, rfl⟩
    · cases hanswer
  | again h he hrest ih =>
    rw [List.forall_mem_cons, List.forall_mem_cons] at hl
    exact (ih hl.2.2 hanswer).imp_right fun ⟨hremove, hlast⟩ => ⟨hremove, last_cons_cons hlast⟩

end Tries

/-! ## How many writes there are -/

/-- The exchanges of so many attempts. -/
structure Within (attempts : Nat) (l : List collaborators.Exchange) : Prop where
  /-- There are no more writes than attempts. -/
  writes_le : l.countP isWrite ≤ attempts
  /-- A conflict is the end only when every attempt has met one. -/
  exhausted : ∀ e, l.getLast? = some e → e.meetsConflict = true →
    l.countP meetsConflict = attempts

/-- **The writes of some attempts.** By induction on the attempts that are left after the one on the
copy: a read comes between two attempts, and is no write. -/
theorem within_attempt (attempts left : Nat)
    (h : (c.attempt key attempts (left + 1) copy).Plays l answer) : Within (left + 1) l := by
  induction left using Nat.strongRecOn generalizing copy l with
  | ind left ih =>
    have hone : ∀ a, [c.exchange copy a].countP isWrite ≤ left + 1 := by
      intro a
      rw [List.countP_singleton, if_pos isWrite_exchange]
      exact Nat.le_add_left 1 left
    have hcalm : ∀ l : List collaborators.Exchange, l.countP isWrite ≤ left + 1 →
        (∀ e, l.getLast? = some e → e.meetsConflict = false) → Within (left + 1) l :=
      fun l hwrites hlast =>
        ⟨hwrites, fun e he hmeets => absurd hmeets (by rw [hlast e he]; exact Bool.noConfusion)⟩
    refine attempt_cases (P := fun l _ => Within (left + 1) l) h ?_ ?_ ?_ ?_ ?_ ?_
    · intro _
      refine hcalm _ (Nat.zero_le _) fun e hlast => ?_
      cases hlast
    · intro _ y
      refine hcalm _ (hone _) fun e hlast => ?_
      obtain rfl := Option.some.inj hlast
      exact meetsConflict_exchange_ok
    · intro _ cause hnone
      refine ⟨hone _, fun e hlast hmeets => ?_⟩
      obtain rfl := Option.some.inj hlast
      obtain rfl := hnone (meetsConflict_exchange_error.symm.trans hmeets)
      exact List.countP_singleton.trans (if_pos hmeets)
    · intro _ cause cause' _
      refine hcalm _ (hone _) fun e hlast => ?_
      obtain rfl := Option.some.inj hlast
      rfl
    · intro _ cause _
      refine hcalm _ (hone _) fun e hlast => ?_
      obtain rfl := Option.some.inj hlast
      rfl
    · intro _ cause latest rest n hleft hcause hrest
      subst hleft
      have hlater := ih n (Nat.lt_succ_self n) hrest
      refine ⟨?_, fun e hlast hmeets => ?_⟩
      · rw [List.countP_cons_of_pos isWrite_exchange, List.countP_cons_of_neg Bool.noConfusion]
        exact Nat.succ_le_succ hlater.writes_le
      · rcases last_of_cons_cons hlast with rfl | hlast
        · cases hmeets
        · rw [List.countP_cons_of_pos (meetsConflict_exchange_error.trans hcause),
            List.countP_cons_of_neg Bool.noConfusion, hlater.exhausted e hlast hmeets]

/-! ## Every run of a change -/

/-- What a change may exchange when it is applied to a copy with so many attempts, and what it may
give. -/
structure Retried (c : Change) (copy : Scaler) (attempts : Nat) (l : List collaborators.Exchange)
    (answer : Except Cause Scaler) : Prop extends Within attempts l where
  /-- A copy that has the change is the answer, and nothing is exchanged. -/
  satisfied : c.isSatisfied copy = true → l = [] ∧ answer = .ok copy
  /-- At most one read comes between two writes. -/
  read_between : ∀ before w between w' after, l = before ++ w :: (between ++ w' :: after) →
    w.isWrite = true → w'.isWrite = true → (∀ e ∈ between, e.isWrite = false) →
    between.length ≤ 1
  /-- No call is made after a refusal other than a write's conflict. -/
  refused : ∀ before e after, l = before ++ e :: after → e.cause? ≠ none →
    e.meetsConflict = false → after = []
  /-- The refusal of the last call is the answer. -/
  last : ∀ e cause, l.getLast? = some e → e.cause? = some cause → answer = .error cause
  /-- An error is the refusal of the last call, or the last call has found the Scaler to be gone. It
  never is that all attempts are used up. -/
  cause : ∀ cause, answer = .error cause → ∃ e, l.getLast? = some e ∧ (e.cause? = some cause ∨
    c ≠ removeFinalizer ∧ e = ⟨.fetch copy.key, .ok none⟩ ∧ cause = .notFound copy.key.text)
  /-- With a store that leaves what was written, a copy that is the answer has the change, or its
  Scaler, that was to lose the marker, was found to be gone. -/
  made : (∀ e ∈ l, e.Carries) → ∀ y, answer = .ok y →
    c.isSatisfied y = true ∨
      c = removeFinalizer ∧ l.getLast? = some ⟨.fetch copy.key, .ok none⟩

/-- **A change retries within bounds**, whatever its calls are answered. -/
theorem retries_bounded {σ : Type} (c : Change) (copy : Scaler) (attempts : Nat)
    (h : Handler collaborators σ) (s : σ) :
    c.Retried copy (max attempts 1) ((c.apply copy attempts).transcript h s)
      ((c.apply copy attempts).run h s).1 := by
  have hplays := Program.plays_run (h := h) (c.apply copy attempts) s
  have htries := tries_apply hplays
  have hneighbours := List.isChain_iff_forall_rel_of_append_cons_cons.mp htries.isChain
  have hwithin : Within (max attempts 1) ((c.apply copy attempts).transcript h s) := by
    have hpos : 0 < max attempts 1 := Nat.lt_of_lt_of_le Nat.one_pos (Nat.le_max_right attempts 1)
    obtain ⟨left, hleft⟩ := Nat.exists_eq_succ_of_ne_zero (Nat.ne_of_gt hpos)
    rw [apply, hleft] at hplays ⊢
    exact within_attempt _ left hplays
  refine ⟨hwithin, ?_, ?_, ?_, fun e cause => htries.answer_of_refused,
    fun cause => htries.refused_of_error, fun hl y => htries.isSatisfied_of_ok hl⟩
  · intro hsatisfied
    rw [apply_of_isSatisfied hsatisfied]
    exact ⟨rfl, rfl⟩
  · rintro before w (_ | ⟨a, _ | ⟨b, between⟩⟩) w' after hl - - hbetween
    · exact Nat.zero_le 1
    · exact Nat.le_refl 1
    · have hab : c.Follows copy.key a b :=
        hneighbours (hl.trans (List.append_assoc before [w] (a :: b :: _)).symm)
      rcases isWrite_of_follows hab with ha | hb
      · cases ha.symm.trans (hbetween a List.mem_cons_self)
      · cases hb.symm.trans (hbetween b (List.mem_cons_of_mem _ List.mem_cons_self))
  · rintro before e (_ | ⟨e', after⟩) hl hcause hcalm
    · rfl
    · cases hcalm.symm.trans (meetsConflict_of_follows (hneighbours hl) hcause)

/-! ## Two conflicts -/

/-- A world with one Scaler, where the next two writes meet a conflict. -/
def twiceContested : World :=
  ((World.empty (.leadsTo .kubernetes)).apply (.put (.plain "default" "nightly"))).apply
    (.conflicts 2)

/-- The Scaler as it is stored there. -/
def contestedCopy : Scaler :=
  Memory.Store.withVersion 1 (.plain "default" "nightly")

/-- A marker is put on with the third write of three that may be made. -/
theorem twiceContested_marked :
    ((addFinalizer.apply contestedCopy 3).transcript World.answer twiceContested).countP isWrite =
      3 ∧
    ∃ y, ((addFinalizer.apply contestedCopy 3).run World.answer twiceContested).1 = .ok y ∧
      addFinalizer.isSatisfied y = true := by
  have hretried := retries_bounded addFinalizer contestedCopy 3 World.answer twiceContested
  obtain ⟨y, hy⟩ : ∃ y, ((addFinalizer.apply contestedCopy 3).run World.answer
      twiceContested).1 = .ok y := exists_ok (by decide +kernel)
  refine ⟨by decide +kernel, y, hy, (hretried.made (fun e he => ?_) y hy).resolve_right nofun⟩
  obtain ⟨w, -, hanswer⟩ := Program.answered_of_mem (fun _ => True) (fun _ _ _ => trivial)
    trivial he
  have hcarries := carries_answer e.call w
  rwa [← hanswer] at hcarries

end Change

end PeriodScaler
