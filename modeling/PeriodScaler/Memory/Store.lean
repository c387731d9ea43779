import PeriodScaler.Cycle.Call
import PeriodScaler.Json.MergePatch
import PeriodScaler.Memory.Table

/-!
# A store of Scalers in memory

The store behaves as a cluster does for Scalers. Every write gives the object a fresh version; a
write made for another version than the stored one is refused as a conflict; an object that is being
deleted disappears when a write leaves it without finalizers.

Conflicts and failing reads can be arranged for.

Model of `MockScalerStore` with `insert`, `stored`, `get` (`fetch`), `write`, `replace_finalizers`
and `replace_status`, and its `inject_conflicts` and `fail_get` as fields. `mergePatch?` stands for
an edit by somebody else. Left out: the lock around the state.
-/

namespace PeriodScaler.Memory

/-- A store of Scalers. -/
structure Store where
  /-- The stored Scalers, ordered by key; a key without one held one before. -/
  objects : List (Key × Option Scaler)
  /-- The last version that was given. -/
  version : Nat
  /-- How many more writes are refused whatever they are. -/
  conflicts : Nat
  /-- The number of writes tried so far. -/
  attempts : Nat
  failingReads : Bool
  deriving DecidableEq, Repr

namespace Store

/-- A store without objects. -/
def empty : Store := ⟨[], 0, 0, 0, false⟩

/-- Puts what a key holds in the place of what it held, by the order of keys. -/
def place (key : Key) (held : Option Scaler) :
    List (Key × Option Scaler) → List (Key × Option Scaler) :=
  Table.place (fun a b => a.1 == b.1) (fun a b => a.1.before b.1) (key, held)

/-- The Scaler stored under a key. -/
def stored (s : Store) (key : Key) : Option Scaler :=
  (s.objects.lookup key).join

/-- A Scaler with a version. -/
def withVersion (n : Nat) (x : Scaler) : Scaler :=
  { x with metadata := { x.metadata with resourceVersion := some (Text.ofNat n) } }

/-- Stores a Scaler as a new version; gives the stored copy. -/
def insert (x : Scaler) (s : Store) : Scaler × Store :=
  let fresh := withVersion (s.version + 1) x
  (fresh, { s with version := s.version + 1, objects := place fresh.key (some fresh) s.objects })

/-- Reads a Scaler. -/
def fetch (key : Key) (s : Store) : Except Cause (Option Scaler) :=
  if s.failingReads then .error (.invalidConfig ("mock read failure for " ++ key.text))
  else .ok (s.stored key)

/-- Whether an object goes away: it is being deleted and no finalizer is left. -/
def isReleased (x : Scaler) : Bool :=
  x.isDeleting && x.finalizers.isEmpty

/-- Applies a change to the stored object, on condition that `copy` has its version. -/
def write (copy : Scaler) (change : Scaler → Scaler) (s : Store) : Except Cause Scaler × Store :=
  let key := copy.key
  let s := { s with attempts := s.attempts + 1 }
  if s.conflicts > 0 then
    (.error (.conflict key.text), { s with conflicts := s.conflicts - 1 })
  else
    match s.stored key with
    | none => (.error (.notFound key.text), s)
    | some x =>
      if x.metadata.resourceVersion ≠ copy.metadata.resourceVersion then
        (.error (.conflict key.text), s)
      else
        let updated := withVersion (s.version + 1) (change x)
        let held := if isReleased updated then none else some updated
        (.ok updated,
          { s with version := s.version + 1, objects := place key held s.objects })

/-- Replaces the finalizers of the stored object. -/
def putFinalizers (copy : Scaler) (finalizers : List String) (s : Store) :
    Except Cause Scaler × Store :=
  s.write copy fun x => { x with metadata := { x.metadata with finalizers := some finalizers } }

/-- Replaces the status of the stored object. -/
def putStatus (copy : Scaler) (status : Status) (s : Store) : Except Cause Scaler × Store :=
  s.write copy fun x => { x with status := some status }

/-- Applies a merge patch to the JSON form of a stored Scaler and stores the result; without a
stored Scaler, or when the result is none, there is nothing to store. -/
def mergePatch? (key : Key) (patch : Json) (s : Store) : Option Store := do
  let x ← s.stored key
  let merged ← Scaler.ofJson? (x.toJson.merge patch)
  return (s.insert merged).2

end Store

end PeriodScaler.Memory
