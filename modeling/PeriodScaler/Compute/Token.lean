import PeriodScaler.Compute.Instance
import PeriodScaler.Compute.ServiceAccount
import PeriodScaler.Http.Exchange

/-!
# Access tokens

How credentials become an access token. One that is kept is used until shortly before it expires.
Without it, a token that was handed over is used as it is, and other credentials are exchanged for
one, which is kept.

Model of `TokenSource` with `token`, of `CachedToken`, and of `exchange_jwt` (`exchange`) and
`fetch_metadata_token` (`askMetadata`), between which `renew` chooses. Left out: the lock around the
kept token, since calls of one source come one after the other here.
-/

namespace PeriodScaler

/-- What is left of an exchange when it is over: a result, or the error of the service. -/
abbrev ComputeResult (α : Type) : Type := Except ComputeError α

/-- A token that was fetched, and when it expires. -/
structure CachedToken where
  token : String
  expires : Instant
  deriving DecidableEq, Repr

/-- The seconds between the epoch and an instant. -/
def Instant.epochSeconds (t : Instant) : Int :=
  t.utc.date.day * 86400 + t.utc.clock.second

namespace CachedToken

/-- A token is no longer used when fewer seconds than these are left. -/
def margin : Int := 60

/-- The longest time, in seconds, that can be counted in milliseconds. -/
def longest : Int := 9223372036854775

/-- Whether a token is still used at an instant. -/
def usable (now : Instant) (c : CachedToken) : Except Fault Bool := do
  let last ← c.expires.addSeconds (-margin)
  return decide (now < last)

/-- The token of an answer that arrives at an instant. -/
def ofAnswer (now : Instant) (answer : TokenAnswer) : Except Fault CachedToken :=
  if -longest ≤ answer.expiresIn ∧ answer.expiresIn ≤ longest then do
    let expires ← now.addSeconds answer.expiresIn
    return ⟨answer.token, expires⟩
  else .error .date

end CachedToken

namespace TokenRequest

/-- What tokens are asked for: to start and to stop instances. -/
def scope : String := "https://www.googleapis.com/auth/compute"

/-- Where the metadata server hands out tokens. -/
def metadataAddress : String :=
  "http://metadata.google.internal/computeMetadata/v1/instance/service-accounts/default/token"

/-- How long an assertion holds, in seconds. -/
def lifetime : Int := 3600

/-- The assertion of an account at an instant. -/
def assertion (account : ServiceAccount) (now : Instant) : Http.Assertion where
  issuer := account.clientEmail
  scope := scope
  audience := account.tokenUri
  issuedAt := now.epochSeconds
  expires := now.epochSeconds + lifetime

/-- The request that exchanges an assertion for a token. -/
def exchange (account : ServiceAccount) (target : Url) (now : Instant) : Http.Request where
  method := .post
  target := target
  headers := []
  body := .form
    [("grant_type", .text "urn:ietf:params:oauth:grant-type:jwt-bearer"),
      ("assertion", .assertion (assertion account now))]

/-- The request to the metadata server. -/
def metadata (target : Url) : Http.Request where
  method := .get
  target := target
  headers := [("metadata-flavor", "Google")]
  body := .empty

/-- What a response means; `failure` says what has failed when it does not tell of success. -/
def understand (failure : String) : Option Http.Response → ComputeResult TokenAnswer
  | none => .error .http
  | some response =>
    if HttpStatus.isSuccess response.status then
      match (Json.read? response.body).bind TokenAnswer.ofJson? with
      | none => .error .http
      | some answer => .ok answer
    else
      .error (.authentication
        (failure ++ ": " ++ HttpStatus.text response.status ++ " - " ++ response.body))

end TokenRequest

namespace Credentials

open Http (Exchange)

/-- Exchanges an assertion of an account for a token. -/
def exchange (account : ServiceAccount) : Exchange (ComputeResult TokenAnswer) := do
  let now ← Http.clock
  match account.signingFault?, Url.ofText? account.tokenUri with
  | some fault, _ => return .error (.authentication fault)
  | none, none => return .error .http
  | none, some target =>
    let response ← Http.send (TokenRequest.exchange account target now)
    return TokenRequest.understand "token exchange failed" response

/-- Asks the metadata server for a token. -/
def askMetadata : Exchange (ComputeResult TokenAnswer) := do
  match Url.ofText? TokenRequest.metadataAddress with
  | none => return .error .http
  | some target =>
    let response ← Http.send (TokenRequest.metadata target)
    return TokenRequest.understand "metadata server token request failed" response

/-- Keeps a token that was fetched, in the place of the one before. -/
def keep (kept : Option CachedToken) :
    ComputeResult TokenAnswer → Exchange (ComputeResult String × Option CachedToken)
  | .error e => return (.error e, kept)
  | .ok answer => do
    let now ← Http.clock
    match CachedToken.ofAnswer now answer with
    | .error f => return (.error (.fault f), kept)
    | .ok fresh => return (.ok answer.token, some fresh)

/-- A token where none is in reserve: one that was handed over is given as it is, and other
credentials are exchanged for one, which is kept. -/
def renew (kept : Option CachedToken) :
    Credentials → Exchange (ComputeResult String × Option CachedToken)
  | accessToken token => return (.ok token, kept)
  | serviceAccount account => do keep kept (← exchange account)
  | metadataServer => do keep kept (← askMetadata)

/-- A token to use now, and the one to keep for later. -/
def token (c : Credentials) (kept : Option CachedToken) :
    Exchange (ComputeResult String × Option CachedToken) := do
  match kept with
  | none => c.renew none
  | some cached =>
    let now ← Http.clock
    match cached.usable now with
    | .error f => return (.error (.fault f), kept)
    | .ok true => return (.ok cached.token, kept)
    | .ok false => c.renew kept

end Credentials

end PeriodScaler
