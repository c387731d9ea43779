import PeriodScaler.Calendar.Instant
import PeriodScaler.Http.Status
import PeriodScaler.Http.Url
import PeriodScaler.Json.Writer
import PeriodScaler.Program

/-!
# Requests and responses

What a client sends over the wire and gets back, as an interface: a request is answered with a
response, or not at all, and the clock can be read.

Model of the HTTP client's `send`, and of the clock. Left out: the connection, its encryption and
its time limits; an exchange that fails is one without a response.
-/

namespace PeriodScaler.Http

/-- What is done to the thing at an address. -/
inductive Method where
  | get | post | patch
  deriving DecidableEq, Repr

/-- The word for a method. -/
def Method.name : Method → String
  | get => "GET"
  | post => "POST"
  | patch => "PATCH"

/-- A signed statement of who wants a token for what, and for how long; times are in seconds. -/
structure Assertion where
  issuer : String
  scope : String
  audience : String
  issuedAt : Int
  expires : Int
  deriving DecidableEq, Repr

/-- How assertions are signed. -/
def Assertion.header : List (String × String) :=
  [("alg", "RS256"), ("typ", "JWT")]

/-- A value of a form. -/
inductive FormValue where
  | text (s : String)
  | assertion (a : Assertion)
  deriving DecidableEq, Repr

/-- What a request carries. -/
inductive Body where
  | empty
  | form (fields : List (String × FormValue))
  | json (j : Json)
  deriving Repr

/-- A request. -/
structure Request where
  method : Method
  target : Url
  headers : List (String × String)
  body : Body
  deriving Repr

/-- The value of a header, if the request has it. -/
def Request.header? (name : String) (r : Request) : Option String :=
  r.headers.lookup name

/-- A response. -/
structure Response where
  status : Nat
  body : String
  deriving DecidableEq, Repr

/-- A call of a client. -/
inductive Call where
  | send (r : Request)
  | clock
  deriving Repr

/-- What a call is answered with: a response if there is one, or the time. -/
def Call.Result : Call → Type
  | send _ => Option Response
  | clock => Instant

/-- The interface of a network with a clock. -/
def network : Interface where
  Call := Call
  Answer := Call.Result

/-- A computation of a client. -/
abbrev Exchange (α : Type) : Type := Program network α

/-- Sends a request. -/
def send (r : Request) : Exchange (Option Response) :=
  Program.call (I := network) (.send r)

/-- Reads the clock. -/
def clock : Exchange Instant :=
  Program.call (I := network) .clock

/-- The network at a moment: responses still to come, the time, and the requests so far, the last
one first. -/
structure Line where
  responses : List Response
  /-- The response when there are no others; without one, nothing can be reached. -/
  exhausted : Option Response
  now : Instant
  sent : List Request
  deriving Repr

/-- Answers each request with the next response. A line that reaches nothing takes no request. -/
def Line.answer : Handler network Line
  | .clock, line => (line.now, line)
  | .send r, line =>
    match line.exhausted with
    | none => (none, line)
    | some last =>
      match line.responses with
      | [] => (some last, { line with sent := r :: line.sent })
      | next :: rest => (some next, { line with responses := rest, sent := r :: line.sent })

end PeriodScaler.Http
