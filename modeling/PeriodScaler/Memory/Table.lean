/-!
# Ordered tables

The entries of a table in memory are ordered, and no two of them are the same: they are kept in the
order of their keys, whatever these are, and to put in an entry under a key replaces the one there.

Model of the maps in `MockScalerStore`, `MockWorkloadApi` and `MockGcpClient`. The first and the
last keep no order, and none of their readers can see one: a Scaler is looked up, and instances are
sorted by name.
-/

namespace PeriodScaler.Memory.Table

/-- Puts an entry in its place, for one that is the same. -/
def place {α : Type} (same before : α → α → Bool) (e : α) : List α → List α
  | [] => [e]
  | x :: rest =>
    if same e x then e :: rest
    else if before e x then e :: x :: rest
    else x :: place same before e rest

end PeriodScaler.Memory.Table
