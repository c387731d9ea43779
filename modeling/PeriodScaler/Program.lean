/-!
# Programs with calls

A program either is done or makes a call and goes on with its answer. The calls and the type of
answer of each form an interface; a handler answers calls out of a state. A program has no effect of
its own, so the same one can be run against any handler.

Model of the asynchronous calls through the traits `ScalerStore`, `WorkloadApi`, `ProviderConnector`
and `GcpComputeTrait` and through the HTTP client: a call is a node of the program, its answer is
awaited there, and a handler stands for an implementation of the traits. Left out: cycles that run
at the same time, other than through what a handler does between two calls.

* `run_bind`: running two programs one after the other is running the second on what the first
  left behind.
-/

namespace PeriodScaler

/-- Calls, and what each is answered with. -/
structure Interface where
  Call : Type
  Answer : Call → Type

/-- A result, or a call with the program that its answer leads to. -/
inductive Program (I : Interface) (α : Type) where
  | done (a : α)
  | ask (c : I.Call) (next : I.Answer c → Program I α)

/-- Answers calls out of a state. -/
def Handler (I : Interface) (σ : Type) : Type :=
  (c : I.Call) → σ → I.Answer c × σ

namespace Program

variable {I : Interface} {α β γ σ : Type}

/-- One program, and then another one made from its result. -/
def bind (p : Program I α) (f : α → Program I β) : Program I β :=
  match p with
  | done a => f a
  | ask c next => ask c fun answer => (next answer).bind f

instance : Monad (Program I) where
  pure := done
  bind := bind

/-- A single call. -/
def call (c : I.Call) : Program I (I.Answer c) :=
  ask c done

/-- The result of a program and the state that its calls leave. -/
def run (h : Handler I σ) : Program I α → σ → α × σ
  | done a, s => (a, s)
  | ask c next, s => (next (h c s).1).run h (h c s).2

@[simp] theorem pure_eq_done (a : α) : (pure a : Program I α) = done a := rfl

@[simp] theorem bind_eq (p : Program I α) (f : α → Program I β) : p >>= f = p.bind f := rfl

@[simp] theorem done_bind (a : α) (f : α → Program I β) : (done a).bind f = f a := rfl

@[simp] theorem ask_bind (c : I.Call) (next : I.Answer c → Program I α) (f : α → Program I β) :
    (ask c next).bind f = ask c fun answer => (next answer).bind f := rfl

@[simp] theorem bind_done (p : Program I α) : p.bind done = p := by
  induction p with
  | done a => rfl
  | ask c next ih => simp [ih]

theorem bind_assoc (p : Program I α) (f : α → Program I β) (g : β → Program I γ) :
    (p.bind f).bind g = p.bind fun a => (f a).bind g := by
  induction p with
  | done a => rfl
  | ask c next ih => simp [ih]

@[simp] theorem run_done (h : Handler I σ) (a : α) (s : σ) :
    (done a : Program I α).run h s = (a, s) :=
  rfl

@[simp] theorem run_ask (h : Handler I σ) (c : I.Call) (next : I.Answer c → Program I α) (s : σ) :
    (ask c next).run h s = (next (h c s).1).run h (h c s).2 := rfl

/-- The second of two programs runs on what the first one left behind. -/
theorem run_bind (h : Handler I σ) (p : Program I α) (f : α → Program I β) (s : σ) :
    (p.bind f).run h s = (f (p.run h s).1).run h (p.run h s).2 := by
  induction p generalizing s with
  | done a => rfl
  | ask c next ih => simp [ih]

end Program

end PeriodScaler
