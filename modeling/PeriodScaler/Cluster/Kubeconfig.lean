import PeriodScaler.Yaml.Record

/-!
# Access to other clusters

The description of clusters, of users and of contexts that pair them, each under its name. Several
documents count as one: their lists are joined, the first current context is the one, and they must
agree on what kind of documents they are.

Files are only named in a description; they are looked for elsewhere.

Model of the library's `Kubeconfig` with its merging of documents, as `connect` reads it from a
secret. Left out: what the library would read from files and from the variables around it.
-/

namespace PeriodScaler

open Yaml (Value)

/-- Something that is here in base64, or in a file, or missing; what is here goes first. -/
structure Stored where
  data : Option String
  file : Option String
  deriving DecidableEq, Repr

/-- A described cluster, as far as it matters for reaching it. -/
structure ClusterEntry where
  server : Option String
  /-- The certificates of its authority. -/
  authority : Stored
  proxy : Option String
  /-- The name under which it identifies itself. -/
  serverName : Option String
  deriving DecidableEq, Repr

/-- A provider that is asked for a proof, with its settings. -/
structure AuthProvider where
  name : String
  settings : List (String × String)
  deriving DecidableEq, Repr

/-- A described user, as far as it matters how it proves itself. -/
structure UserEntry where
  name : Option String
  password : Option String
  token : Option String
  tokenFile : Option String
  certificate : Stored
  key : Stored
  /-- The user and the groups that it acts for. -/
  actsFor : Option String
  groups : List String
  provider : Option AuthProvider
  /-- Whether a program is asked for a proof. -/
  program : Bool
  deriving DecidableEq, Repr

/-- A user that proves nothing. -/
def UserEntry.anonymous : UserEntry :=
  ⟨none, none, none, none, ⟨none, none⟩, ⟨none, none⟩, none, [], none, false⟩

/-- A pair of a cluster and a user. -/
structure ContextEntry where
  cluster : String
  user : Option String
  deriving DecidableEq, Repr

/-- The description of clusters, users and contexts, each under its name. -/
structure Kubeconfig where
  kind : Option String
  version : Option String
  clusters : List (String × Option ClusterEntry)
  users : List (String × Option UserEntry)
  contexts : List (String × Option ContextEntry)
  current : Option String
  deriving DecidableEq, Repr

namespace Kubeconfig

variable {α : Type}

/-- Reads an entry with a name, and what the field `content` says about it. -/
def listed? (content : String) (value? : Value → Option α) (v : Value) :
    Option (String × Option α) := do
  let r ← v.record? ["name", content]
  return (← r.required "name" Value.text?, ← r.optional content value?)

/-- Reads an extension, which may be anything that has a form as JSON. -/
def extension? (v : Value) : Option Unit := do
  let r ← v.record? ["name", "extension"]
  let _ ← r.required "name" Value.text?
  guard (← r.required "extension" some).isJson

/-- Reads the extensions of a record. -/
def extensions? (r : Value.Record) : Option Unit :=
  (r.listOf "extensions" extension?).map fun _ => ()

/-- Reads what is here under one name, or in a file under another one. -/
def stored? (r : Value.Record) (name : String) : Option Stored := do
  return ⟨← r.optional (name ++ "-data") Value.text?, ← r.optional name Value.text?⟩

/-- Reads a cluster. -/
def cluster? (v : Value) : Option ClusterEntry := do
  let r ← v.record?
    ["server", "tls-server-name", "insecure-skip-tls-verify", "certificate-authority",
      "certificate-authority-data", "proxy-url", "disable-compression", "extensions"]
  let _ ← r.optional "insecure-skip-tls-verify" Value.truth?
  let _ ← r.optional "disable-compression" Value.truth?
  extensions? r
  return {
    server := ← r.optional "server" Value.text?
    authority := ← stored? r "certificate-authority"
    proxy := ← r.optional "proxy-url" Value.text?
    serverName := ← r.optional "tls-server-name" Value.text? }

/-- Reads a provider. -/
def provider? (v : Value) : Option AuthProvider := do
  let r ← v.record? ["name", "config"]
  return {
    name := ← r.required "name" Value.text?
    settings := ← r.withDefault "config" [] Value.textMap? }

/-- Whether a program may talk to a user. -/
def interaction? (v : Value) : Option String :=
  v.alternative?.filter fun name => ["Never", "IfAvailable", "Always"].contains name

/-- Reads what is said about a program, which does not matter. -/
def program? (v : Value) : Option Unit := do
  let r ← v.record?
    ["apiVersion", "command", "args", "env", "interactiveMode", "provideClusterInfo"]
  let _ ← r.optional "apiVersion" Value.text?
  let _ ← r.optional "command" Value.text?
  let _ ← r.optional "args" (Value.list? Value.text?)
  let _ ← r.optional "env" (Value.list? Value.textMap?)
  let _ ← r.optional "interactiveMode" interaction?
  let _ ← r.withDefault "provideClusterInfo" false Value.truth?

/-- Reads a user. -/
def user? (v : Value) : Option UserEntry := do
  let r ← v.record?
    ["username", "password", "token", "tokenFile", "client-certificate", "client-certificate-data",
      "client-key", "client-key-data", "as", "as-groups", "auth-provider", "exec"]
  return {
    name := ← r.optional "username" Value.text?
    password := ← r.optional "password" Value.text?
    token := ← r.optional "token" Value.text?
    tokenFile := ← r.optional "tokenFile" Value.text?
    certificate := ← stored? r "client-certificate"
    key := ← stored? r "client-key"
    actsFor := ← r.optional "as" Value.text?
    groups := ← r.listOf "as-groups" Value.text?
    provider := ← r.optional "auth-provider" provider?
    program := (← r.optional "exec" program?).isSome }

/-- Reads a context. -/
def context? (v : Value) : Option ContextEntry := do
  let r ← v.record? ["cluster", "user", "namespace", "extensions"]
  let _ ← r.optional "namespace" Value.text?
  extensions? r
  return {
    cluster := ← r.required "cluster" Value.text?
    user := ← r.optional "user" Value.text? }

/-- Reads preferences, which do not matter. -/
def preferences? (v : Value) : Option Unit := do
  let r ← v.record? ["colors", "extensions"]
  let _ ← r.optional "colors" Value.truth?
  extensions? r

/-- Reads one document. -/
def ofValue? (v : Value) : Option Kubeconfig := do
  let r ← v.record?
    ["preferences", "clusters", "users", "contexts", "current-context", "extensions", "kind",
      "apiVersion"]
  let _ ← r.optional "preferences" preferences?
  extensions? r
  return {
    kind := ← r.optional "kind" Value.text?
    version := ← r.optional "apiVersion" Value.text?
    clusters := ← r.listOf "clusters" (listed? "cluster" cluster?)
    users := ← r.listOf "users" (listed? "user" user?)
    contexts := ← r.listOf "contexts" (listed? "context" context?)
    current := ← r.optional "current-context" Value.text? }

/-- Whether two texts are the same where both are given. -/
def agree (a b : Option String) : Bool :=
  a.isNone || b.isNone || a == b

/-- Two descriptions as one. -/
def merge? (a b : Kubeconfig) : Option Kubeconfig := do
  guard (agree a.kind b.kind && agree a.version b.version)
  return {
    kind := a.kind.or b.kind
    version := a.version.or b.version
    clusters := a.clusters ++ b.clusters
    users := a.users ++ b.users
    contexts := a.contexts ++ b.contexts
    current := a.current.or b.current }

/-- Reads the text of a description. -/
def ofText? (text : String) : Option Kubeconfig := do
  let documents ← (← Yaml.values? text.toList).mapM ofValue?
  documents.foldlM merge? ⟨none, none, [], [], [], none⟩

/-- The cluster and the user of the current context. A user that is not described proves nothing. -/
def current? (k : Kubeconfig) : Option (ClusterEntry × UserEntry) := do
  let context ← (k.contexts.lookup (← k.current)).join
  let cluster ← (k.clusters.lookup context.cluster).join
  let user := (context.user.bind fun name => k.users.lookup name).join
  return (cluster, user.getD .anonymous)

end Kubeconfig

end PeriodScaler
