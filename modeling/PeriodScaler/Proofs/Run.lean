import PeriodScaler.Cycle.Call
import Mathlib.Tactic.Common

/-!
# Runs of programs

What is said of the runs of a program against a handler, by the program's own shape: the end of a
run (`Program.Ensures`), every state on the way (`Program.Stays`) and the calls that can be made
(`Program.Calls`). Each goes through a bind by going through its parts.

`Interference` is what happens to a run from outside: before each call the state may change, and
the call may be refused, which leaves the state alone. Calls are counted, so that each of them can
meet its own fate.

* **`Ensures.bind`**, **`Stays.bind`**: the rules for one program after another.
* **`Interference.around_cases`**: a call is refused, or answered by the handler.
-/

namespace PeriodScaler

namespace Program

variable {I : Interface} {α β σ : Type} {h : Handler I σ}

/-! ## The end of a run -/

/-- Every run that starts in a state of `pre` ends with a result and a state of `post`. -/
def Ensures (h : Handler I σ) (pre : σ → Prop) (p : Program I α) (post : α → σ → Prop) : Prop :=
  ∀ s, pre s → post (p.run h s).1 (p.run h s).2

namespace Ensures

variable {pre : σ → Prop} {p : Program I α}

theorem done {post : α → σ → Prop} {a : α} (ha : ∀ s, pre s → post a s) :
    Ensures h pre (.done a) post :=
  ha

/-- A call ensures what its continuation ensures of each answer that the handler gives. -/
theorem ask {c : I.Call} {next : I.Answer c → Program I α} {post : α → σ → Prop}
    (mid : I.Answer c → σ → Prop) (hc : ∀ s, pre s → mid (h c s).1 (h c s).2)
    (hnext : ∀ a, Ensures h (mid a) (next a) post) : Ensures h pre (.ask c next) post :=
  fun s hs => hnext (h c s).1 (h c s).2 (hc s hs)

/-- **The rule of a bind**: the second program goes on from what the first one ensures. -/
theorem bind {f : α → Program I β} {mid : α → σ → Prop} {post : β → σ → Prop}
    (hp : Ensures h pre p mid) (hf : ∀ a, Ensures h (mid a) (f a) post) :
    Ensures h pre (p.bind f) post := by
  intro s hs
  rw [run_bind]
  exact hf (p.run h s).1 (p.run h s).2 (hp s hs)

/-- A start may be described in any way that its state allows. -/
theorem start {post : α → σ → Prop}
    (h' : ∀ s, pre s → ∃ here : σ → Prop, here s ∧ Ensures h here p post) :
    Ensures h pre p post := by
  intro s hs
  obtain ⟨here, hhere, hp⟩ := h' s hs
  exact hp s hhere

end Ensures

/-! ## The states of a run -/

/-- The states of a run, from its start to its end. -/
def visits (h : Handler I σ) : Program I α → σ → List σ
  | done _, s => [s]
  | ask c next, s => s :: (next (h c s).1).visits h (h c s).2

@[simp] theorem visits_done (a : α) (s : σ) : (done a : Program I α).visits h s = [s] := rfl

@[simp] theorem visits_ask (c : I.Call) (next : I.Answer c → Program I α) (s : σ) :
    (ask c next).visits h s = s :: (next (h c s).1).visits h (h c s).2 := rfl

theorem start_mem_visits (p : Program I α) (s : σ) : s ∈ p.visits h s := by
  cases p with
  | done a => exact List.mem_cons_self
  | ask c next => exact List.mem_cons_self

theorem run_mem_visits (p : Program I α) (s : σ) : (p.run h s).2 ∈ p.visits h s := by
  induction p generalizing s with
  | done a => exact List.mem_cons_self
  | ask c next ih => exact List.mem_cons_of_mem s (ih (h c s).1 (h c s).2)

/-- One program after another visits the states of both. -/
theorem mem_visits_bind {p : Program I α} {f : α → Program I β} {s t : σ} :
    t ∈ (p.bind f).visits h s ↔
      t ∈ p.visits h s ∨ t ∈ (f (p.run h s).1).visits h (p.run h s).2 := by
  induction p generalizing s with
  | done a =>
    rw [done_bind, visits_done, run_done, List.mem_singleton]
    constructor
    · exact Or.inr
    · rintro (rfl | ht)
      · exact start_mem_visits _ _
      · exact ht
  | ask c next ih =>
    rw [ask_bind, visits_ask, visits_ask, List.mem_cons, List.mem_cons, ih, run_ask, or_assoc]

/-- No run from a state of `inv` leaves it. -/
def Stays (h : Handler I σ) (inv : σ → Prop) (p : Program I α) : Prop :=
  ∀ s, inv s → ∀ t ∈ p.visits h s, inv t

namespace Stays

variable {inv : σ → Prop} {p : Program I α}

theorem done (a : α) : Stays h inv (.done a : Program I α) := by
  intro s hs t ht
  rw [visits_done, List.mem_singleton] at ht
  exact ht ▸ hs

theorem ask {c : I.Call} {next : I.Answer c → Program I α}
    (hc : ∀ s, inv s → inv (h c s).2 ∧ Stays h inv (next (h c s).1)) :
    Stays h inv (.ask c next) := by
  intro s hs t ht
  rw [visits_ask, List.mem_cons] at ht
  rcases ht with rfl | ht
  · exact hs
  · exact (hc s hs).2 _ (hc s hs).1 t ht

theorem run (hp : Stays h inv p) {s : σ} (hs : inv s) : inv (p.run h s).2 :=
  hp s hs _ (run_mem_visits p s)

/-- **The rule of a bind**: both programs stay. -/
theorem bind {f : α → Program I β} (hp : Stays h inv p) (hf : ∀ a, Stays h inv (f a)) :
    Stays h inv (p.bind f) := by
  intro s hs t ht
  rcases mem_visits_bind.mp ht with ht | ht
  · exact hp s hs t ht
  · exact hf _ _ (hp.run hs) t ht

end Stays

/-! ## The calls of a program -/

/-- Every call that a program can make satisfies `Q`, whatever it is answered. -/
def Calls (Q : I.Call → Prop) : Program I α → Prop
  | done _ => True
  | ask c next => Q c ∧ ∀ a, (next a).Calls Q

theorem Calls.ask {Q : I.Call → Prop} {c : I.Call} {next : I.Answer c → Program I α} (hc : Q c)
    (hnext : ∀ a, (next a).Calls Q) : (ask c next).Calls Q :=
  ⟨hc, hnext⟩

theorem Calls.bind {Q : I.Call → Prop} {p : Program I α} {f : α → Program I β} (hp : p.Calls Q)
    (hf : ∀ a, (f a).Calls Q) : (p.bind f).Calls Q := by
  induction p with
  | done a => exact hf a
  | ask c next ih => exact ⟨hp.1, fun a => ih a (hp.2 a)⟩

/-- What each call keeps, a run keeps. -/
theorem Calls.ensures {Q : I.Call → Prop} {inv : σ → Prop} {p : Program I α} (hp : p.Calls Q)
    (hinv : ∀ c, Q c → ∀ s, inv s → inv (h c s).2) : p.Ensures h inv fun _ => inv := by
  induction p with
  | done a => exact fun s hs => hs
  | ask c next ih => exact fun s hs => ih _ (hp.2 _) _ (hinv c hp.1 s hs)

end Program

/-! ## Interference -/

/-- What happens to a run from outside, call by call: a change of the state before the call, and a
refusal of it. -/
structure Interference (σ : Type) where
  change : Nat → σ → σ
  refuse : Nat → Option Cause

namespace Interference

variable {σ : Type} {h : Handler collaborators σ}

/-- Nothing happens from outside. -/
def calm : Interference σ :=
  ⟨fun _ s => s, fun _ => none⟩

/-- A handler under interference, with the number of calls so far. -/
def around (i : Interference σ) (h : Handler collaborators σ) : Handler collaborators (Nat × σ) :=
  fun c (n, s) =>
    match i.refuse n with
    | some e => (.error e, n + 1, i.change n s)
    | none => ((h c (i.change n s)).1, n + 1, (h c (i.change n s)).2)

/-- **A call is refused, or answered by the handler.** -/
theorem around_cases (i : Interference σ) (c : Call) (n : Nat) (s : σ) :
    (∃ e, i.around h c (n, s) = (.error e, n + 1, i.change n s)) ∨
      i.around h c (n, s) =
        ((h c (i.change n s)).1, n + 1, (h c (i.change n s)).2) := by
  unfold around
  cases hr : i.refuse n with
  | none => exact Or.inr (by simp only [hr])
  | some e => exact Or.inl ⟨e, by simp only [hr]⟩

end Interference

end PeriodScaler
