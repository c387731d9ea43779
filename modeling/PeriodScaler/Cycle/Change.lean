import PeriodScaler.Cycle.Call

/-!
# Changes of a Scaler

A change is applied to a copy of a Scaler and committed by a write that the store refuses when the
object has changed since the copy was made. On such a conflict the object is fetched again and the
change is applied anew, for a bounded number of attempts. A copy that already has the change is
never written.

The finalizer of an object that is gone needs no removal, so a Scaler that vanished meanwhile is a
success of that change alone.

Model of `Mutation` with `is_satisfied`, and of `apply_with_retry`: `commit` is the write of one
attempt, `attempt` the loop, `apply` the entry. Left out: the messages to the log.
-/

namespace PeriodScaler

/-- A change of a Scaler. -/
inductive Change where
  | addFinalizer
  | removeFinalizer
  | setStatus (status : Status)
  deriving DecidableEq, Repr

namespace Change

/-- Whether a Scaler already has the change. -/
def isSatisfied (c : Change) (s : Scaler) : Bool :=
  match c with
  | addFinalizer => s.isMarked
  | removeFinalizer => !s.isMarked
  | setStatus status => s.status == some status

/-- The finalizers without the marker. -/
def unmarked (finalizers : List String) : List String :=
  finalizers.filter fun f => f != Scaler.finalizer

/-- Writes the change of a copy. -/
def commit (c : Change) (current : Scaler) : Work (Except Cause Scaler) :=
  match c with
  | addFinalizer => .ask (.putFinalizers current (current.finalizers ++ [Scaler.finalizer])) .done
  | removeFinalizer => .ask (.putFinalizers current (unmarked current.finalizers)) .done
  | setStatus status => .ask (.putStatus current status) .done

/-- Up to `left` attempts to commit a change, the first one on `current`. -/
def attempt (c : Change) (key : Key) (attempts : Nat) :
    (left : Nat) → (current : Scaler) → Work (Except Cause Scaler)
  | 0, _ =>
    .done (.error (.conflict (key.text ++ " (" ++ Text.ofNat attempts ++ " attempts)")))
  | left + 1, current =>
    if c.isSatisfied current then .done (.ok current)
    else do
      match ← c.commit current with
      | .ok updated => return .ok updated
      | .error e =>
        if e.isConflict && left > 0 then
          .ask (.fetch key) fun
            | .error e => .done (.error e)
            | .ok (some latest) => attempt c key attempts left latest
            | .ok none =>
              if c = removeFinalizer then .done (.ok current)
              else .done (.error (.notFound key.text))
        else return .error e

/-- Applies a change to a Scaler, with at least one attempt; gives the Scaler as it is then. -/
def apply (c : Change) (s : Scaler) (attempts : Nat) : Work (Except Cause Scaler) :=
  attempt c s.key (max attempts 1) (max attempts 1) s

end Change

end PeriodScaler
