import PeriodScaler.Memory.World
import PeriodScaler.Proofs.Memory.Versions
import PeriodScaler.Proofs.Transcript
import Mathlib.Logic.Relation

/-!
# Programs that share a world

Any number of programs run in one world, each making its next call whenever its turn comes. Every
call is one step, answered by the world or refused, and so is every change from outside: an event, a
call of some other party, or a Scaler that is gone. Nothing keeps the programs apart, so what one of
them has read may be stale by the time that it writes.

The pool remembers the stores that the world went through and what each task has exchanged. A rule
that a program keeps to whatever it is answered (`Program.Obeys`) is then a rule about the calls of
each of its tasks in every reachable pool.

* **`Effect.answerOr`**: what an exchange does to the store.
* **`Pool.Reached.history`**: the stores of a reachable pool are a history.
* **`Pool.Reached.sound`**: every task of a reachable pool keeps to the rule of its program, and
  what it has read was stored.
-/

namespace PeriodScaler

open Memory (World Event Store History Held)

/-! ## What an exchange shows, and what it does -/

namespace Interface.Exchange

/-- The Scaler that a read found. -/
def reading : collaborators.Exchange → Option Scaler
  | ⟨.fetch _, .ok (some x)⟩ => some x
  | _ => none

/-- Whether a Scaler was written. -/
def commits : collaborators.Exchange → Bool
  | ⟨.putFinalizers _ _, .ok _⟩ => true
  | ⟨.putStatus _ _, .ok _⟩ => true
  | _ => false

end Interface.Exchange

/-- The copy that a write is made for, and what it does to the stored object. -/
def Call.edit? : Call → Option (Scaler × (Scaler → Scaler))
  | putFinalizers copy finalizers =>
    some (copy, fun x => { x with metadata := { x.metadata with finalizers := some finalizers } })
  | putStatus copy status => some (copy, fun x => { x with status := some status })
  | _ => none

/-- What an exchange did to the store: every key holds what it held, or a write was made. -/
inductive Effect (s s' : Store) (e : collaborators.Exchange) : Prop where
  | idle (hcommits : e.commits = false) (hsame : ∀ k, s'.stored k = s.stored k)
  | made {copy edit x} (hcommits : e.commits = true) (hedit : e.call.edit? = some (copy, edit))
    (hchanged : s.Changed copy edit x s')

/-- A world answers a call, unless the call is refused. -/
def Memory.World.answerOr (refusal : Option Cause) (c : Call) (w : World) :
    collaborators.Answer c × World :=
  match refusal with
  | some e => (.error e, w)
  | none => World.answer c w

/-- **What an exchange does to the store.** -/
theorem Effect.answerOr (refusal : Option Cause) (c : Call) (w : World) :
    Effect w.store (w.answerOr refusal c).2.store ⟨c, (w.answerOr refusal c).1⟩ := by
  cases refusal with
  | some e => cases c <;> exact .idle rfl fun _ => rfl
  | none =>
    cases c with
    | putFinalizers copy finalizers =>
      have hwrite := Store.written_write copy
        (fun x => { x with metadata := { x.metadata with finalizers := some finalizers } }) w.store
      simp only [World.answerOr, World.answer, Store.putFinalizers]
      generalize w.store.write copy _ = r at hwrite ⊢
      cases hwrite with
      | refused hversion hsame => exact .idle rfl hsame
      | made hchanged => exact .made rfl rfl hchanged
    | putStatus copy status =>
      have hwrite := Store.written_write copy (fun x => { x with status := some status }) w.store
      simp only [World.answerOr, World.answer, Store.putStatus]
      generalize w.store.write copy _ = r at hwrite ⊢
      cases hwrite with
      | refused hversion hsame => exact .idle rfl hsame
      | made hchanged => exact .made rfl rfl hchanged
    | fetch _ => exact .idle rfl fun _ => rfl
    | connect _ => exact .idle rfl fun _ => rfl
    | listWorkloads _ _ _ _ => exact .idle rfl fun _ => rfl
    | scaleWorkload _ _ _ _ _ _ => exact .idle rfl fun _ => rfl
    | listInstances _ _ _ _ => exact .idle rfl fun _ => rfl
    | startInstance _ _ _ _ => exact .idle rfl fun _ => rfl
    | stopInstance _ _ _ _ => exact .idle rfl fun _ => rfl

theorem advances_answerOr {w : World} (hw : w.store.Keyed) (refusal : Option Cause) (c : Call) :
    w.store.Advances (w.answerOr refusal c).2.store := by
  cases refusal with
  | some e => exact .refl _
  | none => exact World.advances_answer hw c

theorem reading_answerOr {x : Scaler} {refusal : Option Cause} {c : Call} {w : World}
    (h : (⟨c, (w.answerOr refusal c).1⟩ : collaborators.Exchange).reading = some x) :
    ∃ key, c = .fetch key ∧ w.store.stored key = some x := by
  cases refusal with
  | some e => cases c <;> cases h
  | none =>
    cases c with
    | fetch key =>
      refine ⟨key, rfl, ?_⟩
      simp only [World.answerOr, World.answer, Store.fetch] at h
      split at h
      · cases h
      · cases hx : w.store.stored key with
        | none =>
          rw [hx] at h
          cases h
        | some y =>
          rw [hx] at h
          exact h
    | _ => cases h

/-! ## Pools -/

/-- What is to be run: a program for each job, and the jobs that may begin after some stores, the
present one in front. -/
class Job (J : Type) where
  Result : Type
  program : J → Work Result
  Admits : List Store → J → Prop
  admits_cons : ∀ {stores j}, Admits stores j → ∀ s, Admits (s :: stores) j

/-- A job that has begun: what its program has exchanged, and what is left of it. -/
structure Task (J : Type) [Job J] where
  job : J
  transcript : List collaborators.Exchange
  left : Work (Job.Result J)

/-- Tasks in one world, with the stores from before. -/
structure Pool (J : Type) [Job J] where
  world : World
  past : List Store
  tasks : List (Task J)

/-- A change of the world by others. -/
inductive Outside (w : World) : World → Prop where
  | event (e : Event) : Outside w (w.apply e)
  | call (c : Call) : Outside w (World.answer c w).2
  | removed (key : Key) : Outside w { w with store := w.store.remove key }

namespace Pool

variable {J : Type} [Job J]

/-- No task has begun in a world without objects. -/
def start (connector : Memory.Connector) : Pool J :=
  ⟨.empty connector, [], []⟩

/-- The stores so far, the present one in front. -/
def stores (p : Pool J) : List Store :=
  p.world.store :: p.past

/-- The pool in another world. -/
def enter (w : World) (p : Pool J) : Pool J :=
  { p with world := w, past := p.stores }

/-- The pool after an event. -/
def happen (e : Event) (p : Pool J) : Pool J :=
  p.enter (p.world.apply e)

/-- The pool with one more task. -/
def begin (j : J) (p : Pool J) : Pool J :=
  { p with tasks := p.tasks ++ [⟨j, [], Job.program j⟩] }

/-- The pool after the next call of a task, if the task has one, was answered or refused. -/
def call (i : Nat) (refusal : Option Cause) (p : Pool J) : Pool J :=
  match p.tasks[i]? with
  | some ⟨j, transcript, .ask c next⟩ =>
    let (answer, w) := p.world.answerOr refusal c
    { p.enter w with tasks := p.tasks.set i ⟨j, transcript ++ [⟨c, answer⟩], next answer⟩ }
  | _ => p

/-- A step of the tasks themselves. -/
inductive Moves (p : Pool J) : Pool J → Prop where
  | begun {j : J} (hj : Job.Admits p.stores j) : Moves p (p.begin j)
  | called (i : Nat) (refusal : Option Cause) : Moves p (p.call i refusal)

/-- A step of the tasks, or a change from outside. -/
inductive Step (p : Pool J) : Pool J → Prop where
  | inside {q} (hq : p.Moves q) : Step p q
  | outside {w} (hw : Outside p.world w) : Step p (p.enter w)

/-- The pool is reachable from one without objects. -/
def Reached (p : Pool J) : Prop :=
  ∃ connector, Relation.ReflTransGen Step (start connector) p

theorem reached_start (connector : Memory.Connector) :
    (Pool.start connector : Pool J).Reached :=
  ⟨connector, .refl⟩

namespace Reached

variable {p : Pool J}

theorem step {q : Pool J} (hp : p.Reached) (hq : p.Step q) : q.Reached := by
  obtain ⟨connector, hsteps⟩ := hp
  exact ⟨connector, hsteps.tail hq⟩

theorem happen (hp : p.Reached) (e : Event) : (p.happen e).Reached :=
  hp.step (.outside (.event e))

theorem begin (hp : p.Reached) {j : J} (hj : Job.Admits p.stores j) : (p.begin j).Reached :=
  hp.step (.inside (.begun hj))

theorem call (hp : p.Reached) (i : Nat) (refusal : Option Cause) : (p.call i refusal).Reached :=
  hp.step (.inside (.called i refusal))

end Reached

/-- What the next call of a task does, if there is one. -/
theorem call_cases (i : Nat) (refusal : Option Cause) (p : Pool J) :
    p.call i refusal = p ∨ ∃ j transcript c next, p.tasks[i]? = some ⟨j, transcript, .ask c next⟩ ∧
      p.call i refusal = { p.enter (p.world.answerOr refusal c).2 with
        tasks := p.tasks.set i
          ⟨j, transcript ++ [⟨c, (p.world.answerOr refusal c).1⟩],
            next (p.world.answerOr refusal c).1⟩ } := by
  unfold call
  split
  · rename_i j transcript c next ht
    exact Or.inr ⟨j, transcript, c, next, ht, rfl⟩
  · exact Or.inl rfl

end Pool

/-! ## What is always so -/

section Invariants

variable {J : Type} [Job J] {p : Pool J}

theorem advances_outside {w w' : World} (hw : w.store.Keyed) (h : Outside w w') :
    w.store.Advances w'.store := by
  cases h with
  | event e => exact World.advances_apply e w
  | call c => exact World.advances_answer hw c
  | removed key => exact Store.advances_remove key w.store

/-- **The stores of a reachable pool are a history.** -/
theorem Pool.Reached.history (hp : p.Reached) : History p.world.store p.past := by
  obtain ⟨connector, hsteps⟩ := hp
  induction hsteps with
  | refl => exact .start
  | @tail p q hsteps hstep ih =>
    cases hstep with
    | outside hw => exact .next ih (advances_outside ih.keyed hw)
    | inside hq =>
      cases hq with
      | begun hj => exact ih
      | called i refusal =>
        rcases p.call_cases i refusal with hnone | ⟨j, transcript, c, next, ht, hcall⟩
        · rw [hnone]
          exact ih
        · rw [hcall]
          exact .next ih (advances_answerOr ih.keyed refusal c)

/-- A rule for the calls of each job, given what was exchanged before. -/
abbrev Rule (J : Type) : Type := J → List collaborators.Exchange → Call → Prop

/-- A task that has kept to a rule and will keep to it, and has read what was stored. -/
structure Task.Sound (rule : Rule J) (stores : List Store) (t : Task J) : Prop where
  admitted : Job.Admits stores t.job
  read : ∀ e ∈ t.transcript, ∀ x, e.reading = some x →
    ∃ key, e.call = .fetch key ∧ Held stores key x
  obeyed : ∀ before e after, t.transcript = before ++ e :: after → rule t.job before e.call
  obeys : t.left.Obeys (rule t.job) t.transcript fun _ _ => True

namespace Task.Sound

variable {rule : Rule J} {stores : List Store}

theorem cons {t : Task J} (h : t.Sound rule stores) (s : Store) : t.Sound rule (s :: stores) where
  admitted := Job.admits_cons h.admitted s
  read e he x hx := by
    obtain ⟨key, hcall, hheld⟩ := h.read e he x hx
    exact ⟨key, hcall, hheld.cons s⟩
  obeyed := h.obeyed
  obeys := h.obeys

/-- A task that begins. -/
theorem begin {j : J} (hj : Job.Admits stores j)
    (hrule : (Job.program j).Obeys (rule j) [] fun _ _ => True) :
    (⟨j, [], Job.program j⟩ : Task J).Sound rule stores where
  admitted := hj
  read _ he := absurd he List.not_mem_nil
  obeyed before e after h := absurd h (by simp)
  obeys := hrule

/-- A task that makes its next call. -/
theorem call {j : J} {transcript : List collaborators.Exchange} {c : Call}
    {next : collaborators.Answer c → Work (Job.Result J)} {w : World} {past : List Store}
    (h : (⟨j, transcript, .ask c next⟩ : Task J).Sound rule (w.store :: past))
    (refusal : Option Cause) :
    (⟨j, transcript ++ [⟨c, (w.answerOr refusal c).1⟩], next (w.answerOr refusal c).1⟩ :
      Task J).Sound rule (w.store :: past) where
  admitted := h.admitted
  read e he x hx := by
    rcases List.mem_append.mp he with he | he
    · exact h.read e he x hx
    · rw [List.mem_singleton.mp he] at hx ⊢
      obtain ⟨key, hcall, hstored⟩ := reading_answerOr hx
      exact ⟨key, hcall, w.store, List.mem_cons_self, hstored⟩
  obeyed before e after hsplit := by
    rcases List.append_eq_append_iff.mp hsplit with ⟨l, hbefore, hl⟩ | ⟨l, hbefore, hl⟩
    · have hlast := List.singleton_eq_append_iff.mp hl
      rcases hlast with ⟨rfl, hcons⟩ | ⟨-, hcons⟩
      · obtain ⟨rfl, -⟩ := List.cons.inj hcons
        rw [List.append_nil] at hbefore
        exact hbefore ▸ h.obeys.1
      · cases hcons
    · cases l with
      | nil =>
        obtain ⟨rfl, -⟩ := List.cons.inj hl
        rw [List.append_nil] at hbefore
        exact hbefore ▸ h.obeys.1
      | cons e' l =>
        obtain ⟨rfl, hafter⟩ := List.cons.inj hl
        exact h.obeyed before e l hbefore
  obeys := h.obeys.2 _

end Task.Sound

/-- **Every task of a reachable pool** keeps to the rule of its program, and what it has read was
stored. -/
theorem Pool.Reached.sound {rule : Rule J}
    (hrule : ∀ j, (Job.program j).Obeys (rule j) [] fun _ _ => True) (hp : p.Reached) :
    ∀ t ∈ p.tasks, t.Sound rule p.stores := by
  obtain ⟨connector, hsteps⟩ := hp
  induction hsteps with
  | refl =>
    intro t ht
    exact absurd ht List.not_mem_nil
  | @tail p q hsteps hstep ih =>
    cases hstep with
    | outside hw => exact fun t ht => (ih t ht).cons _
    | inside hq =>
      cases hq with
      | @begun j hj =>
        intro t ht
        rcases List.mem_append.mp ht with ht | ht
        · exact ih t ht
        · rw [List.mem_singleton.mp ht]
          exact .begin hj (hrule j)
      | called i refusal =>
        rcases p.call_cases i refusal with hnone | ⟨j, transcript, c, next, hi, hcall⟩
        · rw [hnone]
          exact ih
        · rw [hcall]
          intro t ht
          rcases List.mem_or_eq_of_mem_set ht with ht | rfl
          · exact (ih t ht).cons _
          · exact ((ih _ (List.mem_of_getElem? hi)).call refusal).cons _

end Invariants

end PeriodScaler
