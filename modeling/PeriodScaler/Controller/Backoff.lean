import PeriodScaler.Scaler.Object
import PeriodScaler.Calendar.Span

/-!
# Back-off

Delays after critical failures. Each Scaler has a sequence of its own: the shortest delay twice, and
from then on the sum of the last two, never more than the longest delay. A success forgets the
sequence.

Model of `FibonacciBackoff` with `next_delay` and `reset`, and of `BackoffTracker` with `on_failure`
and `on_success`. Left out: the lock around the map of sequences.
-/

namespace PeriodScaler

/-- A sequence of growing delays. -/
structure Backoff where
  shortest : Span
  previous : Span
  current : Span
  longest : Span
  deriving DecidableEq, Repr

namespace Backoff

/-- A sequence at its start. -/
def start (shortest longest : Span) : Backoff :=
  ⟨shortest, .zero, shortest, longest⟩

/-- The current delay, and the sequence after it; a fault when the next delay cannot be formed. -/
def next (b : Backoff) : Except Fault (Span × Backoff) :=
  match b.previous.add b.current with
  | .ok sum => .ok (b.current, { b with previous := b.current, current := sum.min b.longest })
  | .error f => .error f

/-- The sequence at its start again. -/
def reset (b : Backoff) : Backoff :=
  start b.shortest b.longest

end Backoff

/-- The sequences of the Scalers that have failed. -/
structure Tracker where
  shortest : Span
  longest : Span
  entries : List (Key × Backoff)
  deriving DecidableEq, Repr

namespace Tracker

/-- No Scaler has failed. -/
def empty (shortest longest : Span) : Tracker :=
  ⟨shortest, longest, []⟩

/-- The sequence of a Scaler. -/
def sequence (t : Tracker) (key : Key) : Backoff :=
  (t.entries.lookup key).getD (.start t.shortest t.longest)

/-- The entries without those of a key. -/
def without (t : Tracker) (key : Key) : List (Key × Backoff) :=
  t.entries.filter fun (k, _) => k ≠ key

/-- The delay after one more failure of a Scaler. -/
def onFailure (t : Tracker) (key : Key) : Except Fault (Span × Tracker) :=
  match (t.sequence key).next with
  | .ok (delay, b) => .ok (delay, { t with entries := (key, b) :: t.without key })
  | .error f => .error f

/-- Forgets the failures of a Scaler. -/
def onSuccess (t : Tracker) (key : Key) : Tracker :=
  { t with entries := t.without key }

end Tracker

end PeriodScaler
