import PeriodScaler.Cluster.Answer
import PeriodScaler.Cluster.ObjectShape
import PeriodScaler.Cluster.Target
import PeriodScaler.Compute.ServiceAccount
import PeriodScaler.Cycle.Call

/-!
# Connections to providers

How the settings of a Scaler become an access to its provider. Credentials are in a secret next to
the Scaler: a service account for instances, the description of another cluster for workloads.
Without a reference to a secret, the credentials of the machine are used, or the cluster itself.

Model of `KubeProviderConnector` with `secret_value` (`SecretEntry.fetch`) and `connect`. The access
to another cluster is described by its address. Left out: the connection itself.
-/

namespace PeriodScaler.Cluster

/-- Where a secret is, and which of its entries is meant. -/
structure SecretEntry where
  namespaceName : String
  secret : String
  key : String
  deriving DecidableEq, Repr

namespace SecretEntry

/-- The entry with the credentials of a Scaler, if it refers to one. -/
def of? (s : Scaler) : Option SecretEntry :=
  s.spec.authSecret.map fun reference =>
    ⟨s.namespaceName, reference.name, reference.key.getD s.spec.selection.provider.defaultSecretKey⟩

/-- How the secret is named in messages. -/
def label (e : SecretEntry) : String :=
  "secret " ++ e.namespaceName ++ "/" ++ e.secret

/-- The path of the secret. -/
def path? (e : SecretEntry) : Option String :=
  pathOf? ("/api/v1/namespaces/" ++ e.namespaceName ++ "/secrets") e.secret

/-- Reads the entries of a secret, each of them bytes. -/
def data? (j : Json) : Option (List (String × List UInt8)) := do
  guard (Shape.secret.fits 0 j)
  let data := (← j.looseRecord? ["data"]).getLast?.map Prod.snd
  match data with
  | some (.object fields) =>
    fields.reverse.mapM fun (key, value) => (Shape.bytes? value).map fun bytes => (key, bytes)
  | _ => return []

/-- The text of the entry in a secret that was read. -/
def textIn (e : SecretEntry) (entries : List (String × List UInt8)) : Except Cause String :=
  match entries.lookup e.key with
  | none => .error (.auth (e.label ++ " has no key '" ++ e.key ++ "'"))
  | some bytes =>
    match String.fromUTF8? ⟨bytes.toArray⟩ with
    | none => .error (.auth (e.label ++ " key '" ++ e.key ++ "' is not UTF-8"))
    | some text => .ok text

/-- Reads the text of an entry. -/
def fetch (e : SecretEntry) : Http.Exchange (Except Cause String) := do
  let result ← exchange (e.path?.bind read) data?
  match orAbsent result with
  | .error _ => return .error (.auth ("cannot read " ++ e.label))
  | .ok none => return .error (.auth (e.label ++ " not found"))
  | .ok (some entries) => return e.textIn entries

end SecretEntry

/-- The access that some credentials give now; without any, those at hand are used. -/
def accessOf (now : Instant) (p : Provider) (credentials : Option String) :
    Except Cause Access :=
  match p, credentials with
  | .gcp, none => .ok (.instances .metadataServer)
  | .gcp, some text =>
    match ServiceAccount.ofText text with
    | .error e => .error (.auth e.message)
    | .ok account => .ok (.instances (.serviceAccount account))
  | .kubernetes, none => .ok (.workloads none)
  | .kubernetes, some text =>
    match Kubeconfig.ofText? text with
    | none => .error (.auth "invalid kubeconfig")
    | some config =>
      match config.server now with
      | .error .invalid => .error (.auth "invalid kubeconfig")
      | .error .unusable => .error (.auth "cannot build Kubernetes client")
      | .ok server => .ok (.workloads (some server))

/-- Connects to the provider of a Scaler. -/
def connect (s : Scaler) : Http.Exchange (Except Cause Access) := do
  let provider := s.spec.selection.provider
  let now ← Http.clock
  match SecretEntry.of? s with
  | none => return accessOf now provider none
  | some entry =>
    match ← entry.fetch with
    | .error e => return .error e
    | .ok text => return accessOf now provider (some text)

/-- How an access is described in a log. -/
def describe (a : Access) : String :=
  "ProviderHandle(" ++ a.provider.name ++ ")"

end PeriodScaler.Cluster
