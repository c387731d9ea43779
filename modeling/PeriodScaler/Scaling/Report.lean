import PeriodScaler.Cycle.Call

/-!
# Reports

What became of the items that were to be converged. An item is in a report once, as a success or as
a failure; a failure of one item does not keep the others from being processed.

Model of `ScalingReport` with `succeeded` and `failed`. A report that is passed along to be written
to is here the one that a part gives back, and the caller joins them in the order of the calls.
-/

namespace PeriodScaler

/-- Successes and failures, each in the order in which the items were processed. -/
structure Report where
  successful : List Success
  failed : List Failure
  deriving DecidableEq, Repr

namespace Report

/-- Nothing was processed. -/
def empty : Report := ⟨[], []⟩

instance : Inhabited Report := ⟨empty⟩

instance : Append Report :=
  ⟨fun a b => ⟨a.successful ++ b.successful, a.failed ++ b.failed⟩⟩

/-- One item in the requested state. -/
def success (kind name comment : String) : Report :=
  ⟨[⟨kind, name, comment⟩], []⟩

/-- One item that is not in the requested state. -/
def failure (kind name reason : String) : Report :=
  ⟨[], [⟨kind, name, reason⟩]⟩

/-- A failure for each of some names. -/
def failures (kind reason : String) (names : List String) : Report :=
  ⟨[], names.map fun name => ⟨kind, name, reason⟩⟩

@[simp] theorem successful_append (a b : Report) :
    (a ++ b).successful = a.successful ++ b.successful := rfl

@[simp] theorem failed_append (a b : Report) : (a ++ b).failed = a.failed ++ b.failed := rfl

/-- Runs a computation on each element and joins the reports. -/
def gather {α : Type} (f : α → Work Report) : List α → Work Report
  | [] => .done empty
  | a :: rest => do
    let first ← f a
    let others ← gather f rest
    return first ++ others

end Report

end PeriodScaler
