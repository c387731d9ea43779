import PeriodScaler.Compute.Credentials
import PeriodScaler.Compute.Instance
import PeriodScaler.Cycle.Error
import PeriodScaler.Program
import PeriodScaler.Workload.Basic

/-!
# Calls to collaborators

All that a cycle asks of the world: the store of Scalers, the connection to a provider, and the
provider itself. Each call is answered with a result or with a cause for having none.

A call is raced against cancellation. `Token.watch` puts a token in front of a handler: once it has
fired, a call is refused without being started; a call that is under way still gets its answer.

Model of the traits `ScalerStore`, `ProviderConnector`, `WorkloadApi` and `GcpComputeTrait` as the
interface `collaborators`, of `ProviderHandle` (`Access`), and of `with_cancel` (`Token.watch`). Of
a race that both sides could win, the program lets the token win, and so does `watch`. Left out: a
call that is dropped half way; the token is looked at between calls only.
-/

namespace PeriodScaler

/-- An authenticated way to a provider. -/
inductive Access where
  /-- To instances, with these credentials. -/
  | instances (c : Credentials)
  /-- To workloads: of the cluster with this address, or of the one where the Scaler lives. -/
  | workloads (server : Option String)
  deriving DecidableEq, Repr

/-- The provider to which an access leads. -/
def Access.provider : Access → Provider
  | instances _ => .gcp
  | workloads _ => .kubernetes

/-- A call to a collaborator. -/
inductive Call where
  | fetch (key : Key)
  | putFinalizers (scaler : Scaler) (finalizers : List String)
  | putStatus (scaler : Scaler) (status : Status)
  | connect (scaler : Scaler)
  | listWorkloads (server : Option String) (kind : WorkloadKind) (namespaceName : String)
      (selector : Option String)
  /-- Sets the replica count; `record` is the count to return to, and without one the workload's
  record is dropped. -/
  | scaleWorkload (server : Option String) (kind : WorkloadKind) (namespaceName name : String)
      (replicas : Int) (record : Option Int)
  | listInstances (credentials : Credentials) (project zone : String) (filter : Option String)
  | startInstance (credentials : Credentials) (project zone name : String)
  | stopInstance (credentials : Credentials) (project zone name : String)
  deriving DecidableEq, Repr

namespace Call

/-- What a call gives when it succeeds. -/
def Result : Call → Type
  | fetch _ => Option Scaler
  | putFinalizers _ _ => Scaler
  | putStatus _ _ => Scaler
  | connect _ => Access
  | listWorkloads _ _ _ _ => List Workload
  | scaleWorkload _ _ _ _ _ _ => Unit
  | listInstances _ _ _ _ => List Instance
  | startInstance _ _ _ _ => Operation
  | stopInstance _ _ _ _ => Operation

end Call

/-- The interface of the collaborators. -/
def collaborators : Interface where
  Call := Call
  Answer c := Except Cause c.Result

/-- A computation that calls collaborators. -/
abbrev Work (α : Type) : Type := Program collaborators α

/-- A cancellation token: whether it has fired, and after how many more calls it will. -/
structure Token where
  fired : Bool
  remaining : Option Nat
  deriving DecidableEq, Repr

namespace Token

/-- A token that never fires. -/
def never : Token := ⟨false, none⟩

/-- A token that has fired. -/
def cancelled : Token := ⟨true, none⟩

/-- A token that fires when `n` calls have finished, one at least. -/
def after (n : Nat) : Token := ⟨false, some n⟩

/-- The token after one more call has finished. -/
def finishCall (t : Token) : Token :=
  match t.remaining with
  | none => t
  | some n => if n ≤ 1 then ⟨true, none⟩ else ⟨t.fired, some (n - 1)⟩

/-- Refuses calls once the token has fired. -/
def watch {σ : Type} (h : Handler collaborators σ) : Handler collaborators (Token × σ) :=
  fun c (t, s) =>
    if t.fired then (.error .cancelled, (t, s))
    else
      let (answer, s) := h c s
      (answer, (t.finishCall, s))

end Token

end PeriodScaler
