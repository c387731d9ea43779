import PeriodScaler.Proofs.Run

/-!
# Transcripts of runs

What a program exchanges with whatever answers it: its calls, each with its answer, in the order in
which they are made. A transcript shows no states, so what is known of every transcript of a program
holds against every handler, whoever else uses what is behind it.

`Program.Plays` says which exchanges lead a program to its result. `Program.Obeys` is a rule about
each call, given all that was exchanged before it; like a weakest precondition it goes through a
bind by going through its parts.

* **`plays_run`**: the transcript of a run leads to the result of the run.
* **`Obeys.bind`**: the rule for one program after another.
-/

namespace PeriodScaler

/-- A call with the answer that it got. -/
structure Interface.Exchange (I : Interface) where
  call : I.Call
  answer : I.Answer call

namespace Program

variable {I : Interface} {α β σ : Type} {h : Handler I σ}

/-! ## What a run exchanges -/

/-- The exchanges of a run, in their order. -/
def transcript (h : Handler I σ) : Program I α → σ → List I.Exchange
  | done _, _ => []
  | ask c next, s => ⟨c, (h c s).1⟩ :: (next (h c s).1).transcript h (h c s).2

@[simp] theorem transcript_done (a : α) (s : σ) : (done a : Program I α).transcript h s = [] := rfl

@[simp] theorem transcript_ask (c : I.Call) (next : I.Answer c → Program I α) (s : σ) :
    (ask c next).transcript h s =
      ⟨c, (h c s).1⟩ :: (next (h c s).1).transcript h (h c s).2 := rfl

/-- A run whose first call is known to be answered so. -/
theorem run_of_answer {c : I.Call} {next : I.Answer c → Program I α} {s s' : σ} {a : I.Answer c}
    (hc : h c s = (a, s')) : (ask c next).run h s = (next a).run h s' := by
  rw [run_ask, hc]

theorem transcript_of_answer {c : I.Call} {next : I.Answer c → Program I α} {s s' : σ}
    {a : I.Answer c} (hc : h c s = (a, s')) :
    (ask c next).transcript h s = ⟨c, a⟩ :: (next a).transcript h s' := by
  rw [transcript_ask, hc]

/-- One program after another exchanges what the first does, and then what the second does. -/
theorem transcript_bind (p : Program I α) (f : α → Program I β) (s : σ) :
    (p.bind f).transcript h s =
      p.transcript h s ++ (f (p.run h s).1).transcript h (p.run h s).2 := by
  induction p generalizing s with
  | done a => rfl
  | ask c next ih => simp [ih]

/-- The exchanges that lead a program to its result, whoever answers. -/
inductive Plays : Program I α → List I.Exchange → α → Prop where
  | done {a} : Plays (.done a) [] a
  | ask {c next answer l a} (hnext : Plays (next answer) l a) :
    Plays (.ask c next) (⟨c, answer⟩ :: l) a

/-- **The transcript of a run leads to its result.** -/
theorem plays_run (p : Program I α) (s : σ) : p.Plays (p.transcript h s) (p.run h s).1 := by
  induction p generalizing s with
  | done a => exact .done
  | ask c next ih => exact .ask (ih (h c s).1 (h c s).2)

theorem plays_done_iff {a b : α} {l : List I.Exchange} :
    (done a).Plays l b ↔ l = [] ∧ a = b := by
  constructor
  · intro h
    cases h with
    | done => exact ⟨rfl, rfl⟩
  · rintro ⟨rfl, rfl⟩
    exact .done

theorem plays_ask_iff {c : I.Call} {next : I.Answer c → Program I α} {l : List I.Exchange}
    {a : α} : (ask c next).Plays l a ↔
      ∃ answer rest, l = ⟨c, answer⟩ :: rest ∧ (next answer).Plays rest a := by
  constructor
  · intro h
    cases h with
    | ask hnext => exact ⟨_, _, rfl, hnext⟩
  · rintro ⟨answer, rest, rfl, hnext⟩
    exact .ask hnext

/-- What one program after another exchanges falls into the exchanges of both. -/
theorem plays_bind_iff {p : Program I α} {f : α → Program I β} {l : List I.Exchange} {b : β} :
    (p.bind f).Plays l b ↔ ∃ l₁ a l₂, l = l₁ ++ l₂ ∧ p.Plays l₁ a ∧ (f a).Plays l₂ b := by
  induction p generalizing l with
  | done a =>
    constructor
    · intro h
      exact ⟨[], a, l, rfl, .done, h⟩
    · rintro ⟨l₁, a', l₂, rfl, hp, hf⟩
      obtain ⟨rfl, rfl⟩ := plays_done_iff.mp hp
      exact hf
  | ask c next ih =>
    constructor
    · intro h
      obtain ⟨answer, rest, rfl, hnext⟩ := plays_ask_iff.mp h
      obtain ⟨l₁, a, l₂, rfl, hp, hf⟩ := (ih answer).mp hnext
      exact ⟨⟨c, answer⟩ :: l₁, a, l₂, rfl, .ask hp, hf⟩
    · rintro ⟨l₁, a, l₂, rfl, hp, hf⟩
      obtain ⟨answer, rest, rfl, hnext⟩ := plays_ask_iff.mp hp
      exact .ask ((ih answer).mpr ⟨rest, a, l₂, rfl, hnext, hf⟩)

/-- What holds of every call that a program can make holds of those in its transcripts. -/
theorem Calls.plays {Q : I.Call → Prop} {p : Program I α} {l : List I.Exchange} {a : α}
    (hp : p.Calls Q) (hl : p.Plays l a) : ∀ e ∈ l, Q e.call := by
  induction hl with
  | done =>
    intro e he
    exact absurd he List.not_mem_nil
  | ask hnext ih =>
    intro e he
    rcases List.mem_cons.mp he with rfl | he
    · exact hp.1
    · exact ih (hp.2 _) e he

theorem Calls.mono {Q R : I.Call → Prop} {p : Program I α} (hp : p.Calls Q)
    (hQR : ∀ c, Q c → R c) : p.Calls R := by
  induction p with
  | done a => trivial
  | ask c next ih => exact ⟨hQR c hp.1, fun a => ih a (hp.2 a)⟩

/-- Every answer in a transcript was given in a state in which what all calls keep still holds. -/
theorem answered_of_mem (inv : σ → Prop) (hinv : ∀ c s, inv s → inv (h c s).2) {p : Program I α}
    {s : σ} (hs : inv s) {e : I.Exchange} (he : e ∈ p.transcript h s) :
    ∃ t, inv t ∧ e.answer = (h e.call t).1 := by
  induction p generalizing s with
  | done a => exact absurd he List.not_mem_nil
  | ask c next ih =>
    rcases List.mem_cons.mp he with rfl | he
    · exact ⟨s, hs, rfl⟩
    · exact ih _ (hinv c s hs) he

/-- What each call of a transcript keeps, the run keeps. -/
theorem run_keeps {Q : I.Call → Prop} (inv : σ → Prop)
    (hinv : ∀ c, Q c → ∀ s, inv s → inv (h c s).2) {p : Program I α} {s : σ}
    (hp : ∀ e ∈ p.transcript h s, Q e.call) (hs : inv s) : inv (p.run h s).2 := by
  induction p generalizing s with
  | done a => exact hs
  | ask c next ih =>
    rw [transcript_ask, List.forall_mem_cons] at hp
    exact ih _ hp.2 (hinv c hp.1 s hs)

/-! ## Rules about what was exchanged before -/

/-- Whatever it is answered, a program keeps to a rule with each call, given what was exchanged
before, and ends with a result and exchanges of `post`. -/
def Obeys (rule : List I.Exchange → I.Call → Prop) :
    Program I α → List I.Exchange → (α → List I.Exchange → Prop) → Prop
  | done a, past, post => post a past
  | ask c next, past, post =>
    rule past c ∧ ∀ answer, (next answer).Obeys rule (past ++ [⟨c, answer⟩]) post

namespace Obeys

variable {rule : List I.Exchange → I.Call → Prop} {p : Program I α} {past : List I.Exchange}

/-- **The rule of a bind**: the second program goes on after what the first one exchanged. -/
theorem bind {f : α → Program I β} {mid : α → List I.Exchange → Prop}
    {post : β → List I.Exchange → Prop} (hp : p.Obeys rule past mid)
    (hf : ∀ a past, mid a past → (f a).Obeys rule past post) :
    (p.bind f).Obeys rule past post := by
  induction p generalizing past with
  | done a => exact hf a past hp
  | ask c next ih => exact ⟨hp.1, fun answer => ih answer (hp.2 answer)⟩

theorem mono {post post' : α → List I.Exchange → Prop} (hp : p.Obeys rule past post)
    (hpost : ∀ a all, post a all → post' a all) : p.Obeys rule past post' := by
  induction p generalizing past with
  | done a => exact hpost a past hp
  | ask c next ih => exact ⟨hp.1, fun answer => ih answer (hp.2 answer)⟩

/-- Calls that a rule always allows keep to it; what was exchanged before stays in front. -/
theorem of_calls {Q : I.Call → Prop} (hp : p.Calls Q)
    (hQ : ∀ c, Q c → ∀ past, rule past c) :
    p.Obeys rule past fun _ all => ∃ l, all = past ++ l ∧ ∀ e ∈ l, Q e.call := by
  suffices h : ∀ l, (∀ e ∈ l, Q e.call) → p.Obeys rule (past ++ l) fun _ all =>
      ∃ l, all = past ++ l ∧ ∀ e ∈ l, Q e.call by
    have hnil := h [] fun e he => absurd he List.not_mem_nil
    rwa [List.append_nil] at hnil
  induction p with
  | done a => exact fun l hl => ⟨l, rfl, hl⟩
  | ask c next ih =>
    intro l hl
    refine ⟨hQ c hp.1 _, fun answer => ?_⟩
    rw [List.append_assoc]
    refine ih answer (hp.2 answer) _ fun e he => ?_
    rcases List.mem_append.mp he with he | he
    · exact hl e he
    · rw [List.mem_singleton.mp he]
      exact hp.1

/-- A rule that does not look back is a property of the calls. -/
theorem calls {Q : I.Call → Prop} {post : α → List I.Exchange → Prop}
    (hp : p.Obeys (fun _ => Q) past post) : p.Calls Q := by
  induction p generalizing past with
  | done a => trivial
  | ask c next ih => exact ⟨hp.1, fun answer => ih answer (hp.2 answer)⟩

end Obeys

end Program

end PeriodScaler
