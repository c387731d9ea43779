import PeriodScaler.Compute.Token
import PeriodScaler.Text.Quoted

/-!
# Client of the instance service

Lists the instances of a zone, page by page, and starts and stops them. Project and zone are checked
before anything is sent; then a token is fetched, and then the request itself is made. A response
that says that something does not exist is told apart from other failures.

Model of `GcpClient` with `instances_url`, `list_instances` (`pages` is its loop), `start_instance`,
`stop_instance` and `instance_action` (`act`). The loop has a bound on the number of pages, since a
service could go on without end. Left out: the messages to the log.
-/

namespace PeriodScaler

/-- A client: where the service is, whom to act for, and the token in use. -/
structure ComputeClient where
  base : String
  credentials : Credentials
  kept : Option CachedToken
  deriving Repr

/-- What to do with an instance. -/
inductive InstanceAction where
  | start | stop
  deriving DecidableEq, Repr

/-- The word for an action. -/
def InstanceAction.name : InstanceAction → String
  | start => "start"
  | stop => "stop"

namespace ComputeClient

open Http (Exchange)

/-- Where the service is. -/
def publicAddress : String := "https://compute.googleapis.com/compute/v1"

/-- A client of the service at an address; slashes at the end of it do not count. -/
def ofAddress (address : String) (credentials : Credentials) : ComputeClient where
  base := String.ofList ((address.toList.reverse.dropWhile (· == '/')).reverse)
  credentials := credentials
  kept := none

/-- The description of a client in a log; credentials are not told. -/
def describe (c : ComputeClient) : String :=
  "GcpClient \x7b base_url: " ++ Text.quoted c.base ++ ", .. \x7d"

/-- The address of the instances of a zone. -/
def instancesAddress (base project zone : String) : ComputeResult String :=
  if project = "" ∨ zone = "" then
    .error (.invalidRequest "project and zone must not be empty")
  else .ok (base ++ "/projects/" ++ project ++ "/zones/" ++ zone ++ "/instances")

/-- A request to the service. -/
def request (method : Http.Method) (target : Url) (token : String) : Http.Request where
  method := method
  target := target
  headers := [("authorization", "Bearer " ++ token), ("accept", "application/json")]
  body := .empty

/-- The value that a successful response holds; `missing` says what it means that something does not
exist, and `failure` what has failed otherwise. -/
def understand {α : Type} (missing failure : String) (value? : Json → Option α) :
    Option Http.Response → ComputeResult α
  | none => .error .http
  | some response =>
    if response.status = 404 then .error (.notFound missing)
    else if HttpStatus.isSuccess response.status then
      match (Json.read? response.body).bind value? with
      | none => .error .http
      | some a => .ok a
    else
      .error (.api (failure ++ ": " ++ HttpStatus.text response.status ++ " - " ++ response.body))

/-- The query of a page. -/
def pageQuery (filter page : Option String) : List (String × String) :=
  (filter.toList.map fun f => ("filter", f)) ++ page.toList.map fun p => ("pageToken", p)

/-- The instances on a page and on those that follow it, `limit` pages at most. -/
def pages (project zone token : String) (target : Url) (filter : Option String) :
    Nat → Option String → Exchange (ComputeResult (List Instance))
  | 0, _ => .done (.error .http)
  | limit + 1, page => do
    let response ← Http.send
      (request .get (target.withQuery (pageQuery filter page)) token)
    let place := project ++ "/" ++ zone
    match understand ("zone " ++ place ++ " not found") ("Failed to list instances in " ++ place)
        InstancePage.ofJson? response with
    | .error e => return .error e
    | .ok p =>
      match p.following with
      | none => return .ok p.items
      | some next =>
        let rest ← pages project zone token target filter limit (some next)
        return rest.map (p.items ++ ·)

/-- Goes on with an address and a token. -/
def withToken {α : Type} (address : String) (c : ComputeClient)
    (next : Url → String → Exchange (ComputeResult α)) :
    Exchange (ComputeResult α × ComputeClient) := do
  let (token, kept) ← c.credentials.token c.kept
  let c := { c with kept }
  match token with
  | .error e => return (.error e, c)
  | .ok token =>
    match Url.ofText? address with
    | none => return (.error .http, c)
    | some target =>
      let result ← next target token
      return (result, c)

/-- The instances of a zone that a filter accepts, from `limit` pages at most. -/
def listInstances (limit : Nat) (project zone : String) (filter : Option String)
    (c : ComputeClient) : Exchange (ComputeResult (List Instance) × ComputeClient) :=
  match instancesAddress c.base project zone with
  | .error e => .done (.error e, c)
  | .ok address =>
    c.withToken address fun target token => pages project zone token target filter limit none

/-- What an operation means: one with errors has failed. -/
def finished (action : InstanceAction) (o : Operation) : ComputeResult Operation :=
  match o.errors with
  | none => .ok o
  | some list =>
    .error (.api (action.name ++ " operation " ++ o.name ++ " failed: " ++
      "; ".intercalate (list.map OperationFault.message)))

/-- Starts or stops an instance. -/
def act (action : InstanceAction) (project zone name : String) (c : ComputeClient) :
    Exchange (ComputeResult Operation × ComputeClient) :=
  match instancesAddress c.base project zone with
  | .error e => .done (.error e, c)
  | .ok instances =>
    c.withToken (instances ++ "/" ++ name ++ "/" ++ action.name) fun target token => do
      let response ← Http.send (request .post target token)
      let understood := understand
        ("instance " ++ project ++ "/" ++ zone ++ "/" ++ name ++ " not found")
        ("Failed to " ++ action.name ++ " instance " ++ name) Operation.ofJson? response
      return understood.bind (finished action)

end ComputeClient

end PeriodScaler
