import PeriodScaler.Cluster.Connection
import PeriodScaler.Cluster.Store
import PeriodScaler.Cluster.Workloads
import PeriodScaler.Compute.Client

/-!
# Collaborators over a network

The collaborators of a cycle where there is a cluster: each call becomes an exchange, with the
cluster in which the Scaler lives or with the network beyond it, where the service for instances and
other clusters are.

Model of the handler that `KubeScalerStore`, `KubeWorkloads`, `KubeProviderConnector` and
`GcpClient` make together, each on its line of exchanges.
-/

namespace PeriodScaler.Cluster

/-- The cluster and the network beyond it. -/
structure Network where
  home : Http.Line
  beyond : Http.Line
  /-- The most pages of a list of instances that are read. -/
  pageLimit : Nat
  deriving Repr

namespace Network

/-- Runs an exchange with the cluster. -/
def atHome {α : Type} (p : Http.Exchange α) (n : Network) : α × Network :=
  let (a, home) := p.run Http.Line.answer n.home
  (a, { n with home })

/-- Runs an exchange with the network beyond the cluster. -/
def outside {α : Type} (p : Http.Exchange α) (n : Network) : α × Network :=
  let (a, beyond) := p.run Http.Line.answer n.beyond
  (a, { n with beyond })

/-- Runs an exchange with a cluster: another one when it has an address. -/
def withCluster {α : Type} (server : Option String) (p : Http.Exchange α) (n : Network) :
    α × Network :=
  if server.isSome then n.outside p else n.atHome p

/-- Runs an exchange with the service for instances. -/
def withService {α : Type} (credentials : Credentials)
    (p : ComputeClient → Http.Exchange (ComputeResult α × ComputeClient)) (n : Network) :
    Except Cause α × Network :=
  let (result, n) := n.outside (p (.ofAddress ComputeClient.publicAddress credentials))
  (result.1.mapError .compute, n)

/-- Answers the calls of a cycle. -/
def answer : Handler collaborators Network
  | .fetch key, n => n.atHome (fetch key)
  | .putFinalizers scaler finalizers, n => n.atHome (putFinalizers scaler finalizers)
  | .putStatus scaler status, n => n.atHome (putStatus scaler status)
  | .connect scaler, n => n.atHome (connect scaler)
  | .listWorkloads server kind namespaceName selector, n =>
    n.withCluster server (listWorkloads kind namespaceName selector)
  | .scaleWorkload server kind namespaceName name replicas record, n =>
    n.withCluster server (scaleWorkload kind namespaceName name replicas record)
  | .listInstances credentials project zone filter, n =>
    n.withService credentials fun client =>
      client.listInstances n.pageLimit project zone filter
  | .startInstance credentials project zone name, n =>
    n.withService credentials fun client => client.act .start project zone name
  | .stopInstance credentials project zone name, n =>
    n.withService credentials fun client => client.act .stop project zone name

end Network

end PeriodScaler.Cluster
