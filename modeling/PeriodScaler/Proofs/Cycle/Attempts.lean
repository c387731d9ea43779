import PeriodScaler.Cycle.Change
import PeriodScaler.Proofs.Transcript

/-!
# The attempts of a change

A change makes one kind of call, a write of the copy that it has, and reads only after a conflict;
what it then finds is the next copy. So what is said of all its attempts follows from a fact about
the copy at hand that each read establishes anew: a fact about all that was exchanged before, for
the rule that the writes keep, or a fact about the state, for what the change leaves behind.

* **`makes_made`**: a write of the copy at hand makes of it what the change is to make of it.
* **`run_attempt_contested`**: the run of an attempt that meets a conflict.
* **`obeys_apply`**: the rule for all attempts of a change.
* **`attempt_cases`**: how one attempt goes.
* **`tries_apply`**: how all attempts of a change go, and with what answer.
* **`Upholds.apply`**: what all attempts of a change leave behind.
-/

namespace PeriodScaler

/-- A Scaler with these finalizers, and all else as it was. -/
def Scaler.withFinalizers (x : Scaler) (finalizers : List String) : Scaler :=
  { x with metadata := { x.metadata with finalizers := some finalizers } }

namespace Change

/-- The write that commits a change of a copy. -/
def write (c : Change) (copy : Scaler) : Call :=
  match c with
  | addFinalizer => .putFinalizers copy (copy.finalizers ++ [Scaler.finalizer])
  | removeFinalizer => .putFinalizers copy (unmarked copy.finalizers)
  | setStatus status => .putStatus copy status

/-- The write that commits a change of a copy, with its answer. -/
def exchange (c : Change) (copy : Scaler) (answer : Except Cause Scaler) :
    collaborators.Exchange :=
  match c with
  | addFinalizer => ⟨addFinalizer.write copy, answer⟩
  | removeFinalizer => ⟨removeFinalizer.write copy, answer⟩
  | setStatus status => ⟨(setStatus status).write copy, answer⟩

/-- What the write of a copy does to the stored object. -/
def edit (c : Change) (copy x : Scaler) : Scaler :=
  match c with
  | addFinalizer =>
    { x with metadata :=
      { x.metadata with finalizers := some (copy.finalizers ++ [Scaler.finalizer]) } }
  | removeFinalizer =>
    { x with metadata := { x.metadata with finalizers := some (unmarked copy.finalizers) } }
  | setStatus status => { x with status := some status }

/-- A Scaler with a change made. -/
def made (c : Change) (x : Scaler) : Scaler :=
  c.edit x x

/-- **What a change is to make of a Scaler**: the marker goes behind the other finalizers, every
copy of it is taken out and the others keep their order, or the status is replaced. -/
inductive Makes (x : Scaler) : Change → Scaler → Prop where
  | marked : Makes x .addFinalizer (x.withFinalizers (x.finalizers ++ [Scaler.finalizer]))
  | released : Makes x .removeFinalizer
    (x.withFinalizers (x.finalizers.filter fun f => f != Scaler.finalizer))
  | status (status : Status) : Makes x (.setStatus status) { x with status := some status }

theorem makes_made (c : Change) (x : Scaler) : c.Makes x (c.made x) := by
  cases c with
  | addFinalizer => exact .marked
  | removeFinalizer => exact .released
  | setStatus status => exact .status status

/-- A copy that has the change is not written. -/
theorem apply_of_isSatisfied {c : Change} {x : Scaler} (h : c.isSatisfied x = true)
    (attempts : Nat) : c.apply x attempts = .done (.ok x) := by
  have hpos : 0 < max attempts 1 := Nat.lt_of_lt_of_le Nat.one_pos (Nat.le_max_right attempts 1)
  obtain ⟨left, hleft⟩ := Nat.exists_eq_succ_of_ne_zero (Nat.ne_of_gt hpos)
  rw [apply, hleft, attempt, if_pos h]

/-! ## One attempt -/

section Runs

variable {σ : Type} {h : Handler collaborators σ} {s s' s'' : σ} {c : Change} {key : Key}
  {copy : Scaler} {attempts left : Nat}

/-- A copy that has the change is the answer. -/
theorem run_attempt_satisfied (hsatisfied : c.isSatisfied copy = true) :
    (c.attempt key attempts (left + 1) copy).run h s = (.ok copy, s) := by
  rw [attempt, if_pos hsatisfied]
  rfl

/-- A write that is made is the last call. -/
theorem run_attempt_written {y : Scaler} (hmissing : c.isSatisfied copy = false)
    (hwrite : (c.commit copy).run h s = (.ok y, s')) :
    (c.attempt key attempts (left + 1) copy).run h s = (.ok y, s') := by
  rw [attempt]
  simp only [hmissing, Bool.false_eq_true, if_false, Program.bind_eq, Program.run_bind, hwrite]
  rfl

/-- A write that is refused for another cause than a conflict is the last call. -/
theorem run_attempt_refused {e : Cause} (hmissing : c.isSatisfied copy = false)
    (hwrite : (c.commit copy).run h s = (.error e, s')) (he : e.isConflict = false) :
    (c.attempt key attempts (left + 1) copy).run h s = (.error e, s') := by
  rw [attempt]
  simp only [hmissing, Bool.false_eq_true, if_false, Program.bind_eq, Program.run_bind, hwrite, he,
    Bool.false_and]
  rfl

theorem run_fetch {α : Type} {found : Except Cause (Option Scaler)}
    (hread : h (.fetch key) s = (found, s')) (next : Except Cause (Option Scaler) → Work α) :
    (Program.ask (I := collaborators) (Call.fetch key) next).run h s = (next found).run h s' :=
  congrArg (fun r : Except Cause (Option Scaler) × σ => (next r.1).run h r.2) hread

/-- After a conflict the Scaler is read again, and the next attempt is on what is found. A Scaler
that is gone needs no removal of its marker. -/
theorem run_attempt_contested {e : Cause} {found : Option Scaler}
    (hmissing : c.isSatisfied copy = false) (hwrite : (c.commit copy).run h s = (.error e, s'))
    (he : e.isConflict = true) (hread : h (.fetch key) s' = (.ok found, s'')) :
    (c.attempt key attempts (left + 2) copy).run h s =
      found.elim (if c = removeFinalizer then .ok copy else .error (.notFound key.text), s'')
        fun latest => (c.attempt key attempts (left + 1) latest).run h s'' := by
  rw [attempt]
  simp only [hmissing, Bool.false_eq_true, if_false, Program.bind_eq, Program.run_bind, hwrite, he,
    Bool.true_and, gt_iff_lt, Nat.zero_lt_succ, decide_true, if_true]
  refine (run_fetch hread _).trans ?_
  cases found with
  | some latest => rfl
  | none =>
    by_cases hremove : c = removeFinalizer
    · simp only [if_pos hremove]
      rfl
    · simp only [if_neg hremove]
      rfl

end Runs

/-! ## What was exchanged -/

section Obeys

variable {rule : List collaborators.Exchange → Call → Prop}

theorem obeys_commit {c : Change} {copy : Scaler} {past : List collaborators.Exchange}
    {post : Except Cause Scaler → List collaborators.Exchange → Prop}
    (hwrite : rule past (c.write copy))
    (hpost : ∀ answer, post answer (past ++ [c.exchange copy answer])) :
    (c.commit copy).Obeys rule past post := by
  cases c with
  | addFinalizer => exact ⟨hwrite, hpost⟩
  | removeFinalizer => exact ⟨hwrite, hpost⟩
  | setStatus status => exact ⟨hwrite, hpost⟩

variable (known : List collaborators.Exchange → Scaler → Prop) {c : Change} {key : Key}
  (hwrite : ∀ past copy, known past copy → c.isSatisfied copy = false → rule past (c.write copy))
  (hfetch : ∀ past copy e, known past copy → e.isConflict = true →
    rule (past ++ [c.exchange copy (.error e)]) (.fetch key))
  (hread : ∀ past copy e x, known past copy →
    known (past ++ [c.exchange copy (.error e)] ++ [⟨.fetch key, .ok (some x)⟩]) x)

include hwrite hfetch hread

/-- By induction on the attempts that are left, each with a copy that is known. -/
theorem obeys_attempt (attempts : Nat) : ∀ (left : Nat) {copy : Scaler}
    {past : List collaborators.Exchange}, known past copy →
      (c.attempt key attempts left copy).Obeys rule past fun _ _ => True
  | 0, _, _, _ => trivial
  | left + 1, copy, past, hcopy => by
    unfold attempt
    cases hsatisfied : c.isSatisfied copy with
    | true => trivial
    | false =>
      have hcommit : (c.commit copy).Obeys rule past fun answer all =>
          all = past ++ [c.exchange copy answer] :=
        obeys_commit (hwrite past copy hcopy hsatisfied) fun _ => rfl
      refine hcommit.bind ?_
      rintro answer _ rfl
      cases answer with
      | ok updated => trivial
      | error e =>
        by_cases hretry : (e.isConflict && decide (left > 0)) = true
        · have hconflict : e.isConflict = true := (Bool.and_eq_true _ _ ▸ hretry).1
          simp only [if_pos hretry]
          refine ⟨hfetch past copy e hcopy hconflict, fun answer => ?_⟩
          cases answer with
          | error e' => trivial
          | ok found =>
            cases found with
            | some latest => exact obeys_attempt attempts left (hread past copy e latest hcopy)
            | none =>
              by_cases hremove : c = removeFinalizer
              · simp only [if_pos hremove]
                trivial
              · simp only [if_neg hremove]
                trivial
        · simp only [if_neg hretry]
          trivial

/-- **The rule for all attempts**: it need hold of a write of each copy that is known, and of each
read after a conflict. -/
theorem obeys_apply {copy : Scaler} (hkey : copy.key = key) {past : List collaborators.Exchange}
    (hcopy : known past copy) (attempts : Nat) :
    (c.apply copy attempts).Obeys rule past fun _ _ => True := by
  unfold apply
  rw [hkey]
  exact obeys_attempt known hwrite hfetch hread _ _ hcopy

end Obeys

/-- Whatever holds of its writes and of reads holds of all calls of a change. -/
theorem calls_apply {Q : Call → Prop} (c : Change) (hwrite : ∀ copy, Q (c.write copy))
    (hfetch : ∀ key, Q (.fetch key)) (copy : Scaler) (attempts : Nat) :
    (c.apply copy attempts).Calls Q := by
  have hobeys : (c.apply copy attempts).Obeys (fun _ => Q) [] fun _ _ => True := by
    refine obeys_apply (fun _ _ => True) ?_ ?_ ?_ rfl trivial attempts
    · exact fun _ copy _ _ => hwrite copy
    · exact fun _ _ _ _ _ => hfetch copy.key
    · exact fun _ _ _ _ _ => trivial
  exact hobeys.calls

/-! ## How the attempts go -/

/-- How the attempts of a change go from a copy on: what is exchanged, and the answer at the end. A
write that is refused is the end, unless it was refused as a conflict and the object can be read
again. -/
inductive Tries (c : Change) (key : Key) :
    Scaler → List collaborators.Exchange → Except Cause Scaler → Prop where
  | satisfied {copy} (h : c.isSatisfied copy = true) : Tries c key copy [] (.ok copy)
  | written {copy y} (h : c.isSatisfied copy = false) :
    Tries c key copy [c.exchange copy (.ok y)] (.ok y)
  | refused {copy e} (h : c.isSatisfied copy = false) :
    Tries c key copy [c.exchange copy (.error e)] (.error e)
  | unread {copy e e'} (h : c.isSatisfied copy = false) (he : e.isConflict = true) :
    Tries c key copy [c.exchange copy (.error e), ⟨.fetch key, .error e'⟩] (.error e')
  | gone {copy e} (h : c.isSatisfied copy = false) (he : e.isConflict = true) :
    Tries c key copy [c.exchange copy (.error e), ⟨.fetch key, .ok none⟩]
      (if c = removeFinalizer then .ok copy else .error (.notFound key.text))
  | again {copy e latest l answer} (h : c.isSatisfied copy = false) (he : e.isConflict = true)
    (hrest : Tries c key latest l answer) :
    Tries c key copy
      (c.exchange copy (.error e) :: ⟨.fetch key, .ok (some latest)⟩ :: l) answer

section Tries

variable {c : Change} {key : Key} {copy : Scaler} {l : List collaborators.Exchange}
  {answer : Except Cause Scaler}

theorem plays_commit (h : (c.commit copy).Plays l answer) : l = [c.exchange copy answer] := by
  cases c <;>
  · obtain ⟨a, rest, rfl, hrest⟩ := Program.plays_ask_iff.mp h
    obtain ⟨rfl, rfl⟩ := Program.plays_done_iff.mp hrest
    rfl

/-- One attempt, with `left` more after it. A copy that has the change is the answer, and so is the
answer to its write, unless that is a conflict and an attempt is left; then the Scaler is read
again, and the attempts that are left go on with what was found. -/
theorem attempt_cases {attempts left : Nat}
    {P : List collaborators.Exchange → Except Cause Scaler → Prop}
    (h : (c.attempt key attempts (left + 1) copy).Plays l answer)
    (satisfied : c.isSatisfied copy = true → P [] (.ok copy))
    (written : c.isSatisfied copy = false → ∀ y, P [c.exchange copy (.ok y)] (.ok y))
    (refused : c.isSatisfied copy = false → ∀ e, (e.isConflict = true → left = 0) →
      P [c.exchange copy (.error e)] (.error e))
    (unread : c.isSatisfied copy = false → ∀ e e', e.isConflict = true →
      P [c.exchange copy (.error e), ⟨.fetch key, .error e'⟩] (.error e'))
    (gone : c.isSatisfied copy = false → ∀ e, e.isConflict = true →
      P [c.exchange copy (.error e), ⟨.fetch key, .ok none⟩]
        (if c = removeFinalizer then .ok copy else .error (.notFound key.text)))
    (again : c.isSatisfied copy = false → ∀ e latest rest n, left = n + 1 → e.isConflict = true →
      (c.attempt key attempts (n + 1) latest).Plays rest answer →
      P (c.exchange copy (.error e) :: ⟨.fetch key, .ok (some latest)⟩ :: rest) answer) :
    P l answer := by
  unfold attempt at h
  cases hsatisfied : c.isSatisfied copy with
  | true =>
    rw [if_pos hsatisfied] at h
    obtain ⟨rfl, rfl⟩ := Program.plays_done_iff.mp h
    exact satisfied hsatisfied
  | false =>
    rw [if_neg (Bool.not_eq_true _ ▸ hsatisfied)] at h
    obtain ⟨_, first, rest, rfl, hcommit, hend⟩ := Program.plays_bind_iff.mp h
    obtain rfl := plays_commit hcommit
    cases first with
    | ok y =>
      obtain ⟨rfl, rfl⟩ := Program.plays_done_iff.mp hend
      exact written hsatisfied y
    | error e =>
      by_cases hretry : (e.isConflict && decide (left > 0)) = true
      · simp only [if_pos hretry] at hend
        obtain ⟨hconflict, hleft⟩ := (Bool.and_eq_true _ _).mp hretry
        obtain ⟨found, tail, rfl, hfound⟩ := Program.plays_ask_iff.mp hend
        rcases found with e' | _ | latest
        · obtain ⟨rfl, rfl⟩ := Program.plays_done_iff.mp hfound
          exact unread hsatisfied e e' hconflict
        · have hgone : tail = [] ∧
              (if c = removeFinalizer then .ok copy else .error (.notFound key.text)) = answer := by
            by_cases hremove : c = removeFinalizer
            · simp only [if_pos hremove] at hfound ⊢
              exact Program.plays_done_iff.mp hfound
            · simp only [if_neg hremove] at hfound ⊢
              exact Program.plays_done_iff.mp hfound
          obtain ⟨rfl, rfl⟩ := hgone
          exact gone hsatisfied e hconflict
        · obtain ⟨n, rfl⟩ :=
            Nat.exists_eq_succ_of_ne_zero (Nat.ne_of_gt (of_decide_eq_true hleft))
          exact again hsatisfied e latest tail n rfl hconflict hfound
      · simp only [if_neg hretry] at hend
        obtain ⟨rfl, rfl⟩ := Program.plays_done_iff.mp hend
        refine refused hsatisfied e fun hconflict => Nat.eq_zero_of_not_pos fun hleft => hretry ?_
        rw [hconflict, decide_eq_true hleft, Bool.and_self]

/-- By induction on the attempts that are left after the one on the copy. -/
theorem tries_attempt (attempts left : Nat)
    (h : (c.attempt key attempts (left + 1) copy).Plays l answer) : c.Tries key copy l answer := by
  induction left using Nat.strongRecOn generalizing copy l with
  | ind left ih =>
    refine attempt_cases h .satisfied (fun hc y => .written hc) (fun hc e _ => .refused hc)
      (fun hc e e' he => .unread hc he) (fun hc e he => .gone hc he) ?_
    intro hc e latest rest n hleft he hrest
    exact .again hc he (ih n (hleft ▸ Nat.lt_succ_self n) hrest)

/-- **How all attempts of a change go**: there is at least one. -/
theorem tries_apply {attempts : Nat} (h : (c.apply copy attempts).Plays l answer) :
    c.Tries copy.key copy l answer := by
  have hpos : 0 < max attempts 1 := Nat.lt_of_lt_of_le Nat.one_pos (Nat.le_max_right attempts 1)
  obtain ⟨left, hleft⟩ := Nat.exists_eq_succ_of_ne_zero (Nat.ne_of_gt hpos)
  rw [apply, hleft] at h
  exact tries_attempt _ _ h

namespace Tries

/-- The attempts of a change write copies of the Scaler and read it again. -/
theorem calls (h : c.Tries key copy l answer) :
    ∀ e ∈ l, (∃ other, e.call = c.write other) ∨ e.call = .fetch key := by
  have hwrite : ∀ other a, ∃ other', (c.exchange other a).call = c.write other' := by
    intro other a
    cases c <;> exact ⟨other, rfl⟩
  induction h with
  | satisfied h => exact fun e he => absurd he List.not_mem_nil
  | written h => exact List.forall_mem_singleton.mpr (Or.inl (hwrite _ _))
  | refused h => exact List.forall_mem_singleton.mpr (Or.inl (hwrite _ _))
  | unread h he =>
    exact List.forall_mem_cons.mpr
      ⟨Or.inl (hwrite _ _), List.forall_mem_singleton.mpr (Or.inr rfl)⟩
  | gone h he =>
    exact List.forall_mem_cons.mpr
      ⟨Or.inl (hwrite _ _), List.forall_mem_singleton.mpr (Or.inr rfl)⟩
  | again h he hrest ih =>
    exact List.forall_mem_cons.mpr
      ⟨Or.inl (hwrite _ _), List.forall_mem_cons.mpr ⟨Or.inr rfl, ih⟩⟩

/-- A change fails because its Scaler is gone, or for the cause with which one of its calls was
answered. -/
theorem cause {e : Cause} (h : c.Tries key copy l (.error e)) :
    e = .notFound key.text ∨ ∃ call, (⟨call, .error e⟩ : collaborators.Exchange) ∈ l := by
  have hwrite : ∀ other, ∃ call, c.exchange other (.error e) = ⟨call, .error e⟩ := by
    intro other
    cases c <;> exact ⟨_, rfl⟩
  generalize hanswer : (Except.error e : Except Cause Scaler) = answer at h
  induction h with
  | satisfied h => cases hanswer
  | written h => cases hanswer
  | refused h =>
    obtain rfl := Except.error.inj hanswer
    obtain ⟨call, hcall⟩ := hwrite _
    exact Or.inr ⟨call, List.mem_singleton.mpr hcall.symm⟩
  | unread h he =>
    obtain rfl := Except.error.inj hanswer
    exact Or.inr ⟨.fetch key, List.mem_cons_of_mem _ (List.mem_singleton.mpr rfl)⟩
  | gone h he =>
    split at hanswer
    · cases hanswer
    · exact Or.inl (Except.error.inj hanswer)
  | again h he hrest ih =>
    obtain hgone | ⟨call, hcall⟩ := ih hanswer
    · exact Or.inl hgone
    · exact Or.inr ⟨call, List.mem_cons_of_mem _ (List.mem_cons_of_mem _ hcall)⟩

end Tries

end Tries

/-! ## What is left behind -/

/-- A fact about the copy at hand and the state that every attempt upholds, up to a result and a
state of `post`. -/
structure Upholds {σ : Type} (c : Change) (key : Key) (h : Handler collaborators σ)
    (known : Scaler → σ → Prop) (post : Except Cause Scaler → σ → Prop) : Prop where
  done : ∀ {copy s}, known copy s → c.isSatisfied copy = true → post (.ok copy) s
  fail : ∀ {copy s} e, known copy s → post (.error e) s
  written : ∀ {copy s y}, known copy s → c.isSatisfied copy = false →
    ((c.commit copy).run h s).1 = .ok y → post (.ok y) ((c.commit copy).run h s).2
  refused : ∀ {copy s e}, known copy s → c.isSatisfied copy = false →
    ((c.commit copy).run h s).1 = .error e → known copy ((c.commit copy).run h s).2
  found : ∀ {copy s x}, known copy s → c.isSatisfied copy = false →
    (h (.fetch key) s).1 = .ok (some x) → known x (h (.fetch key) s).2
  gone : ∀ {copy s}, known copy s → c.isSatisfied copy = false →
    (h (.fetch key) s).1 = .ok none →
    post (if c = removeFinalizer then .ok copy else .error (.notFound key.text))
      (h (.fetch key) s).2
  unread : ∀ {copy s e}, known copy s → c.isSatisfied copy = false →
    (h (.fetch key) s).1 = .error e → known copy (h (.fetch key) s).2

namespace Upholds

variable {σ : Type} {c : Change} {key : Key} {h : Handler collaborators σ}
  {known : Scaler → σ → Prop} {post : Except Cause Scaler → σ → Prop}

/-- By induction on the attempts that are left, each on a copy that is known. -/
theorem attempt (hc : c.Upholds key h known post) (attempts : Nat) :
    ∀ (left : Nat) {copy : Scaler},
      (c.attempt key attempts left copy).Ensures h (known copy) post
  | 0, _ => Program.Ensures.done fun _ hs => hc.fail _ hs
  | left + 1, copy => by
    unfold Change.attempt
    cases hsatisfied : c.isSatisfied copy with
    | true => exact Program.Ensures.done fun s hs => hc.done hs hsatisfied
    | false =>
      have hcommit : (c.commit copy).Ensures h (known copy) fun answer s =>
          (∀ y, answer = .ok y → post (.ok y) s) ∧ ∀ e, answer = .error e → known copy s :=
        fun s hs => ⟨fun y hy => hc.written hs hsatisfied hy,
          fun e he => hc.refused hs hsatisfied he⟩
      refine hcommit.bind fun answer => ?_
      cases answer with
      | ok updated => exact Program.Ensures.done fun s hs => hs.1 updated rfl
      | error e =>
        refine Program.Ensures.start fun s hs => ⟨known copy, hs.2 e rfl, ?_⟩
        by_cases hretry : (e.isConflict && decide (left > 0)) = true
        · simp only [if_pos hretry]
          refine Program.Ensures.ask (fun answer s =>
            (∀ e, answer = .error e → known copy s) ∧
            (∀ x, answer = .ok (some x) → known x s) ∧
            (answer = .ok none →
              post (if c = removeFinalizer then .ok copy else .error (.notFound key.text)) s))
            (fun s hs => ⟨fun e he => hc.unread hs hsatisfied he,
              fun x hx => hc.found hs hsatisfied hx, hc.gone hs hsatisfied⟩) ?_
          intro answer
          rcases answer with e | _ | latest
          · exact Program.Ensures.done fun s hs => hc.fail e (hs.1 e rfl)
          · refine Program.Ensures.start fun s hs => ⟨_, hs.2.2 rfl, ?_⟩
            by_cases hremove : c = removeFinalizer
            · simp only [if_pos hremove]
              exact Program.Ensures.done fun s hs => hs
            · simp only [if_neg hremove]
              exact Program.Ensures.done fun s hs => hs
          · refine Program.Ensures.start fun s hs => ⟨known latest, hs.2.1 latest rfl, ?_⟩
            exact attempt hc attempts left
        · simp only [if_neg hretry]
          exact Program.Ensures.done fun s hs => hc.fail e hs

/-- **What all attempts leave behind.** -/
theorem apply (hc : c.Upholds key h known post) {copy : Scaler} (hkey : copy.key = key)
    (attempts : Nat) : (c.apply copy attempts).Ensures h (known copy) post := by
  unfold Change.apply
  rw [hkey]
  exact hc.attempt _ _

end Upholds

end Change

end PeriodScaler
