import PeriodScaler.Compute.Credentials
import PeriodScaler.Crypto.RsaKey
import PeriodScaler.Cycle.Error
import PeriodScaler.Encoding.Der
import PeriodScaler.Encoding.Pem
import PeriodScaler.Json.Reader
import PeriodScaler.Json.Record

/-!
# Service account files

Reading the file of a service account. Three things can be wrong with it, and they are looked for in
this order: it is not the JSON that such a file has, it is the file of another kind of account, or
its private key is no RSA key. Whether the key is sound comes out when it signs.

Model of `from_service_account_json` (`ofText`), and of what `exchange_jwt` can say about a key
before it sends anything (`signingFault?`). The signature itself is left out: a request carries what
is asserted, and the account that signed it.
-/

namespace PeriodScaler

namespace ServiceAccount

/-- Where tokens are asked for unless the file says otherwise. -/
def defaultTokenUri : String := "https://oauth2.googleapis.com/token"

/-- The kind of account that is understood. -/
def expectedKind : String := "service_account"

/-- Reads the JSON form. -/
def ofJson? (j : Json) : Option ServiceAccount := do
  let r ← j.record? ["type", "client_email", "private_key", "token_uri", "project_id"]
  return {
    kind := ← r.optional "type" Json.text?
    clientEmail := ← r.required "client_email" Json.text?
    privateKey := ← r.required "private_key" Json.text?
    tokenUri := ← r.withDefault "token_uri" defaultTokenUri Json.text?
    project := ← r.optional "project_id" Json.text? }

/-- The identifier of RSA keys. -/
def rsaFamily : List Nat := [1, 2, 840, 113549, 1, 1, 1]

/-- The identifier of keys on elliptic curves. -/
def ellipticFamily : List Nat := [1, 2, 840, 10045, 2, 1]

/-- The identifier of Edwards keys. -/
def edwardsFamily : List Nat := [1, 3, 101, 112]

/-- The bytes of the RSA key in an armoured block: the whole block, or the first string in it when
the block names the family of the key. -/
def rsaBytes? (block : Pem.Block) (values : List Der.Value) : Option (List UInt8) :=
  if block.tag = "RSA PRIVATE KEY" ∨ block.tag = "RSA PUBLIC KEY" then some block.bytes
  else if block.tag = "PRIVATE KEY" ∨ block.tag = "PUBLIC KEY" ∨ block.tag = "CERTIFICATE" then
    if Der.firstOfAll [ellipticFamily, rsaFamily, edwardsFamily] values = some rsaFamily then
      Der.firstStringOf? values
    else none
  else none

/-- The bytes of the RSA key that a text holds. -/
def keyBytes? (text : String) : Option (List UInt8) := do
  let block ← Pem.block? text.toUTF8.toList
  rsaBytes? block (← Der.values? block.bytes)

/-- What is told of a private key that is no RSA key. -/
def unreadableKey : String := "invalid service account private key"

/-- Why a key cannot sign; none when it can. -/
def unsoundness? (bytes : List UInt8) : Option String :=
  match Crypto.RsaKey.ofBytes bytes with
  | .error fault => some ("RSA key invalid: " ++ fault.name)
  | .ok key => if key.isConsistent then none else some "RsaFailedSigning"

/-- What is told of an account that cannot sign; none when it can. -/
def signingFault? (account : ServiceAccount) : Option String :=
  match keyBytes? account.privateKey with
  | none => some unreadableKey
  | some bytes => (unsoundness? bytes).map ("failed to sign JWT assertion: " ++ ·)

/-- The account that a parsed file describes. -/
def check (account : ServiceAccount) : Except ComputeError ServiceAccount :=
  let kind := account.kind.getD expectedKind
  if kind ≠ expectedKind then
    .error (.authentication
      ("unsupported credentials type '" ++ kind ++ "', expected '" ++ expectedKind ++ "'"))
  else if (keyBytes? account.privateKey).isSome then .ok account
  else .error (.authentication unreadableKey)

/-- Reads the text of a file. -/
def ofText (text : String) : Except ComputeError ServiceAccount :=
  match (Json.read? text).bind ofJson? with
  | none => .error (.authentication "invalid service account key")
  | some account => account.check

end ServiceAccount

end PeriodScaler
