import Mathlib.Data.Nat.Fib.Basic
import PeriodScaler.Controller.Backoff
import PeriodScaler.Proofs.Answers

/-!
# The delays of the back-off

A sequence forms each delay from the two before it, which have been cut to the longest delay, so the
cut is fed back into the sums. It has no effect on what follows: the delay after so many failures is
a multiple of the shortest one by a Fibonacci number, cut once. A tracker is read through the
sequences of its Scalers alone (`Tracker.Alike`).

* **`next_after`**: the next delay of a sequence, and that it can always be formed.
* **`sequence_onFailure`**, **`sequence_onSuccess`**: the sequence of every Scaler after a failure
  and after a success of one.
* **`onSuccess_alike_restart`**: to drop the entry of a Scaler is to reset its sequence.
-/

namespace PeriodScaler

/-! ## Sequences -/

namespace Backoff

variable {shortest longest : Span}

/-- The delay after so many failures in a row. -/
def delay (shortest longest : Span) (failures : Nat) : Span :=
  ⟨min (Nat.fib failures * shortest.nanos) longest.nanos⟩

/-- A sequence after so many of its delays. -/
def after (shortest longest : Span) (failures : Nat) : Backoff :=
  ⟨shortest, delay shortest longest failures, delay shortest longest (failures + 1), longest⟩

theorem delay_le (shortest longest : Span) (failures : Nat) :
    (delay shortest longest failures).nanos ≤ longest.nanos :=
  Nat.min_le_right _ _

theorem delay_mono (shortest longest : Span) {m n : Nat} (h : m ≤ n) :
    (delay shortest longest m).nanos ≤ (delay shortest longest n).nanos :=
  min_le_min_right _ (Nat.mul_le_mul_right _ (Nat.fib_mono h))

/-- The sum of two delays, cut, is the next one: cutting the two first makes no difference. -/
theorem delay_add (shortest longest : Span) (failures : Nat) :
    min ((delay shortest longest failures).nanos + (delay shortest longest (failures + 1)).nanos)
      longest.nanos = (delay shortest longest (failures + 2)).nanos := by
  simp only [delay]
  rw [Nat.fib_add_two, Nat.add_mul]
  omega

theorem after_zero (hle : shortest.nanos ≤ longest.nanos) :
    after shortest longest 0 = start shortest longest := by
  obtain ⟨s⟩ := shortest
  simp only [after, start, delay, Nat.fib_zero, Nat.fib_one, zero_add, zero_mul, one_mul,
    Nat.zero_min, Nat.min_eq_left hle, Span.zero]

theorem reset_after (hle : shortest.nanos ≤ longest.nanos) (failures : Nat) :
    (after shortest longest failures).reset = after shortest longest 0 :=
  (after_zero hle).symm

/-- Two delays have a sum if twice the longest one can be represented. -/
theorem add_delay (hsum : (Span.mk (2 * longest.nanos)).inRange = true) (m n : Nat) :
    (delay shortest longest m).add (delay shortest longest n) =
      .ok ⟨(delay shortest longest m).nanos + (delay shortest longest n).nanos⟩ := by
  have hm := delay_le shortest longest m
  have hn := delay_le shortest longest n
  refine Span.add_eq_ok.mpr ⟨rfl, ?_⟩
  have hrange : 2 * longest.nanos / 1000000000 ≤ Text.maxWord64 := of_decide_eq_true hsum
  exact (Nat.div_le_div_right (by simp only; omega)).trans hrange

/-- **The next delay of a sequence**, which is always formed. -/
theorem next_after (hsum : (Span.mk (2 * longest.nanos)).inRange = true) (failures : Nat) :
    (after shortest longest failures).next =
      .ok (delay shortest longest (failures + 1), after shortest longest (failures + 1)) := by
  have hcut : ∀ s : Span, s.min longest = ⟨min s.nanos longest.nanos⟩ := by
    intro s
    unfold Span.min
    split
    · next h => rw [Nat.min_eq_left h]
    · next h => rw [Nat.min_eq_right (by omega)]
  unfold next
  simp only [after, add_delay hsum, hcut, delay_add]

end Backoff

/-! ## Trackers -/

namespace Tracker

variable {t t' : Tracker} {key : Key}

theorem lookup_without_self (entries : List (Key × Backoff)) (key : Key) :
    (entries.filter fun (k, _) => k ≠ key).lookup key = none := by
  induction entries with
  | nil => rfl
  | cons entry rest ih =>
    by_cases hentry : entry.1 = key
    · rw [List.filter_cons_of_neg (by simpa using hentry)]
      exact ih
    · rw [List.filter_cons_of_pos (by simpa using hentry), List.lookup_cons,
        beq_false_of_ne (Ne.symm hentry)]
      exact ih

theorem lookup_without_ne (entries : List (Key × Backoff)) {k : Key} (hk : k ≠ key) :
    (entries.filter fun (k, _) => k ≠ key).lookup k = entries.lookup k := by
  induction entries with
  | nil => rfl
  | cons entry rest ih =>
    by_cases hentry : entry.1 = key
    · rw [List.filter_cons_of_neg (by simpa using hentry), ih, List.lookup_cons,
        beq_false_of_ne (hentry ▸ hk)]
    · rw [List.filter_cons_of_pos (by simpa using hentry), List.lookup_cons, List.lookup_cons, ih]

/-- A tracker in which a Scaler has a sequence in the place of its own. -/
def put (t : Tracker) (key : Key) (b : Backoff) : Tracker :=
  { t with entries := (key, b) :: t.without key }

/-- A tracker in which the sequence of a Scaler is reset. -/
def restart (t : Tracker) (key : Key) : Tracker :=
  t.put key (t.sequence key).reset

theorem sequence_put (t : Tracker) (key : Key) (b : Backoff) (k : Key) :
    (t.put key b).sequence k = if k = key then b else t.sequence k := by
  simp only [sequence, put, List.lookup_cons]
  by_cases hk : k = key
  · rw [if_pos hk, beq_iff_eq.mpr hk]
    rfl
  · rw [if_neg hk, beq_false_of_ne hk, without, lookup_without_ne _ hk]

/-- **After a success of a Scaler**, its sequence is at the start, and the others are as before. -/
theorem sequence_onSuccess (t : Tracker) (key k : Key) :
    (t.onSuccess key).sequence k =
      if k = key then .start t.shortest t.longest else t.sequence k := by
  simp only [sequence, onSuccess]
  by_cases hk : k = key
  · rw [if_pos hk, hk, without, lookup_without_self]
    rfl
  · rw [if_neg hk, without, lookup_without_ne _ hk]

/-- **After a failure of a Scaler**, its sequence has gone on, and the others are as before. -/
theorem sequence_onFailure {delay : Span} {b : Backoff}
    (h : (t.sequence key).next = .ok (delay, b)) :
    t.onFailure key = .ok (delay, t.put key b) := by
  rw [onFailure, h]
  rfl

/-- Two trackers with the same bounds in which every Scaler has the same sequence. -/
structure Alike (t t' : Tracker) : Prop where
  shortest_eq : t.shortest = t'.shortest
  longest_eq : t.longest = t'.longest
  sequence : ∀ k, t.sequence k = t'.sequence k

theorem Alike.put (h : t.Alike t') (key : Key) (b : Backoff) :
    (t.put key b).Alike (t'.put key b) where
  shortest_eq := h.shortest_eq
  longest_eq := h.longest_eq
  sequence k := by rw [sequence_put, sequence_put, h.sequence]

theorem Alike.onSuccess (h : t.Alike t') (key : Key) :
    (t.onSuccess key).Alike (t'.onSuccess key) where
  shortest_eq := h.shortest_eq
  longest_eq := h.longest_eq
  sequence k := by
    rw [sequence_onSuccess, sequence_onSuccess, h.sequence, h.shortest_eq, h.longest_eq]

/-- Alike trackers answer a failure with the same delay, and are alike again. -/
theorem Alike.onFailure (h : t.Alike t') (key : Key) :
    (∃ f, t.onFailure key = .error f ∧ t'.onFailure key = .error f) ∨
      ∃ delay u u', t.onFailure key = .ok (delay, u) ∧ t'.onFailure key = .ok (delay, u') ∧
        u.Alike u' := by
  have hsequence := h.sequence key
  cases hnext : (t.sequence key).next with
  | error f =>
    refine Or.inl ⟨f, ?_, ?_⟩
    · rw [Tracker.onFailure, hnext]
    · rw [Tracker.onFailure, ← hsequence, hnext]
  | ok answer =>
    obtain ⟨delay, b⟩ := answer
    exact Or.inr ⟨delay, t.put key b, t'.put key b, sequence_onFailure hnext,
      sequence_onFailure (hsequence ▸ hnext), h.put key b⟩

/-- The critical failures of each Scaler in a row are all that a tracker keeps. -/
structure Counts (shortest longest : Span) (failures : Key → Nat) (t : Tracker) : Prop where
  shortest_eq : t.shortest = shortest
  longest_eq : t.longest = longest
  sequence : ∀ k, t.sequence k = .after shortest longest (failures k)

namespace Counts

variable {shortest longest : Span} {failures : Key → Nat}

theorem empty (hle : shortest.nanos ≤ longest.nanos) :
    Counts shortest longest (fun _ => 0) (.empty shortest longest) where
  shortest_eq := rfl
  longest_eq := rfl
  sequence _ := (Backoff.after_zero hle).symm

theorem onSuccess (h : Counts shortest longest failures t) (hle : shortest.nanos ≤ longest.nanos)
    (key : Key) :
    Counts shortest longest (fun k => if k = key then 0 else failures k) (t.onSuccess key) where
  shortest_eq := h.shortest_eq
  longest_eq := h.longest_eq
  sequence k := by
    rw [sequence_onSuccess, h.shortest_eq, h.longest_eq, h.sequence, ← Backoff.after_zero hle]
    split <;> rfl

/-- A failure is always answered, by the delay that its number in the row asks for. -/
theorem onFailure (h : Counts shortest longest failures t)
    (hsum : (Span.mk (2 * longest.nanos)).inRange = true) (key : Key) :
    ∃ u, t.onFailure key = .ok (Backoff.delay shortest longest (failures key + 1), u) ∧
      Counts shortest longest (fun k => if k = key then failures k + 1 else failures k) u := by
  refine ⟨_, sequence_onFailure ((h.sequence key).symm ▸ Backoff.next_after hsum (failures key)),
    h.shortest_eq, h.longest_eq, fun k => ?_⟩
  rw [sequence_put, h.sequence]
  split
  · next hk => rw [hk]
  · rfl

/-- **To drop the entry of a Scaler is to reset its sequence.** -/
theorem onSuccess_alike_restart (h : Counts shortest longest failures t)
    (hle : shortest.nanos ≤ longest.nanos) (key : Key) :
    (t.onSuccess key).Alike (t.restart key) where
  shortest_eq := rfl
  longest_eq := rfl
  sequence k := by
    rw [sequence_onSuccess, restart, sequence_put, h.sequence key, Backoff.reset_after hle,
      Backoff.after_zero hle, h.shortest_eq, h.longest_eq]

end Counts

end Tracker

end PeriodScaler
