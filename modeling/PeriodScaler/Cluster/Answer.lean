import PeriodScaler.Http.Exchange
import PeriodScaler.Http.Uri
import PeriodScaler.Json.Reader
import PeriodScaler.Json.Record

/-!
# Answers of a cluster

What a response of a cluster means. A code of the four or five hundreds is an error; when the body
describes it, the code and the reason given there count, and otherwise the code of the response. Any
other response must hold the object that was asked for.

Model of how the library's client understands a response, and of the requests it makes for reading,
listing and patching. Left out: everything else that it can ask for.
-/

namespace PeriodScaler.Cluster

/-- Why a request to a cluster has no object as its result. -/
inductive Refusal where
  /-- No answer, or one that makes no sense. -/
  | unreadable
  /-- An error that the cluster tells of. -/
  | error (code : Nat) (reason : String)
  deriving DecidableEq, Repr

/-- The reason where the cluster gives none that can be read. -/
def unreadableReason : String := "Failed to parse error data"

/-- Reads a description of an error. -/
def refusal? (j : Json) : Option Refusal := do
  let r ← j.record? ["status", "message", "reason", "code"]
  let _ ← r.required "status" Json.text?
  let _ ← r.withDefault "message" "" Json.text?
  let reason ← r.withDefault "reason" "" Json.text?
  let code ← r.required "code" (Json.int? 0 65535)
  return .error code.toNat reason

/-- The object in a response. -/
def understand {α : Type} (object? : Json → Option α) : Option Http.Response → Except Refusal α
  | none => .error .unreadable
  | some response =>
    if HttpStatus.isError response.status then
      .error (((Json.read? response.body).bind refusal?).getD
        (.error response.status unreadableReason))
    else
      match (Json.read? response.body).bind object? with
      | some a => .ok a
      | none => .error .unreadable

/-- An answer to a read: an object that does not exist is no error. -/
def orAbsent {α : Type} : Except Refusal α → Except Refusal (Option α)
  | .ok a => .ok (some a)
  | .error (.error code reason) =>
    if reason = "NotFound" then .ok none else .error (.error code reason)
  | .error .unreadable => .error .unreadable

/-- The address of a resource on a cluster. Nothing is encoded: a path with characters that cannot
be sent has no address, and one with a question mark has a query of its own. -/
def address? (target : String) : Option Url :=
  (Http.Uri.ofText? target).map fun uri =>
    ⟨"", uri.path, (uri.query.map fun query => Percent.formParts query.toList).getD []⟩

/-- Sends a request, when there is an address to send it to, and reads the object in its
response. -/
def exchange {α : Type} (request : Option Http.Request) (object? : Json → Option α) :
    Http.Exchange (Except Refusal α) :=
  match request with
  | none => .done (.error .unreadable)
  | some r => do
    let response ← Http.send r
    return understand object? response

/-- The request that reads a resource. -/
def read (path : String) : Option Http.Request :=
  (address? path).map fun target => ⟨.get, target, [], .empty⟩

/-- The request that reads the resources of a collection. -/
def list (path : String) (query : List (String × String)) : Option Http.Request :=
  (address? (path ++ "?&" ++ String.ofList (Percent.formText query))).map fun target =>
    ⟨.get, target, [], .empty⟩

/-- The request that merges a patch into a resource. -/
def patch (path : String) (change : Json) : Option Http.Request :=
  (address? (path ++ "?")).map fun target =>
    ⟨.patch, target, [("content-type", "application/merge-patch+json")], .json change⟩

/-- The path of a resource with a name; there is none without a name. -/
def pathOf? (collection name : String) : Option String :=
  if name = "" then none else some (collection ++ "/" ++ name)

end PeriodScaler.Cluster
