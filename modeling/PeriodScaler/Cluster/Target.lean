import PeriodScaler.Calendar.Pattern
import PeriodScaler.Cluster.Kubeconfig
import PeriodScaler.Crypto.Certificate
import PeriodScaler.Crypto.PrivateKey
import PeriodScaler.Encoding.Pem
import PeriodScaler.Encoding.PemSection
import PeriodScaler.Http.ServerName
import PeriodScaler.Http.Uri

/-!
# The way to a described cluster

Where the current context of a description leads, and whether one can go there: the certificates of
the authority must be certificates, the private key of a user must go with its certificate, and the
user must have a proof at hand. There are no files here and no programs, so what is in a file is
missing, and what a program would give cannot be had. Connections through others are not made.

A certificate and a key that cannot be read count as none at all.

Model of what the library checks of a `Kubeconfig` before it gives a client. Left out: the
connection itself.
-/

namespace PeriodScaler

/-- Why a description does not lead to a cluster. -/
inductive Kubeconfig.Flaw where
  /-- It cannot be read, or something in it is missing. -/
  | invalid
  /-- It cannot be used from here. -/
  | unusable
  deriving DecidableEq, Repr

namespace Stored

/-- Whether something is stored at all. -/
def isGiven (s : Stored) : Bool :=
  s.data.isSome || s.file.isSome

/-- The bytes that are stored, with a line break at their end unless there are none. -/
def bytes? (s : Stored) : Option (List UInt8) := do
  let bytes ← Base64.decode? (← s.data).toList
  return if bytes.isEmpty || bytes.getLast? = some 10 then bytes else bytes ++ [10]

end Stored

namespace ClusterEntry

/-- The certificates of the authority; none at all when it is not given. -/
def authorities? (c : ClusterEntry) : Option (List (List UInt8)) :=
  if c.authority.isGiven then do
    let blocks ← Pem.blocks? (← c.authority.bytes?)
    return (blocks.filter fun block => block.tag == "CERTIFICATE").map Pem.Block.bytes
  else some []

/-- The address through which the cluster is to be reached, if there is one; it must be an
address. -/
def proxy? (c : ClusterEntry) : Option (Option Http.Uri) :=
  match c.proxy.filter (· ≠ "") with
  | none => some none
  | some proxy => (Http.Uri.ofText? proxy).map some

end ClusterEntry

namespace UserEntry

/-- Whether a text can be the value of a header. -/
def isHeaderValue (s : String) : Bool :=
  s.toList.all fun c => ('\x20' ≤ c && c < '\x7f') || c == '\t'

/-- The form of the key in a section. -/
def keyForm? : PemSection.Kind → Option Crypto.KeyForm
  | .rsaKey => some .rsa
  | .ellipticKey => some .elliptic
  | .wrappedKey => some .wrapped
  | _ => none

/-- The last key in some sections: one with its algorithm if there is any, then an RSA key. -/
def keyIn? (sections : List (PemSection.Kind × List UInt8)) :
    Option (Crypto.KeyForm × List UInt8) := do
  let last (kind : PemSection.Kind) : Option (PemSection.Kind × List UInt8) :=
    sections.reverse.find? fun (k, _) => k == kind
  let (kind, bytes) ← (last .wrappedKey).or ((last .rsaKey).or (last .ellipticKey))
  return (← keyForm? kind, bytes)

/-- Whether a key and a certificate in some bytes go together, and nothing else is there. -/
def isIdentity (bytes : List UInt8) : Bool :=
  match PemSection.all? bytes with
  | none => false
  | some sections =>
    let certificate := (sections.find? fun (kind, _) => kind == .certificate).bind
      fun (_, bytes) => Crypto.Certificate.ofBytes? bytes
    let described := (keyIn? sections).bind fun (form, bytes) => form.describedKey? bytes
    (sections.all fun (kind, _) => kind != .other) && described.isSome &&
      described == certificate.map Crypto.Certificate.key

/-- Whether the key and the certificate of a user, if it has both, go together. -/
def hasSoundIdentity (u : UserEntry) : Bool :=
  match u.key.bytes?, u.certificate.bytes? with
  | some key, some certificate => isIdentity (key ++ certificate)
  | _, _ => true

/-- Whether a provider has a proof at hand that holds for a minute from now on at least. -/
def hasProof (now : Instant) (p : AuthProvider) : Bool :=
  let setting (name : String) : Option String := p.settings.lookup name
  if p.name = "oidc" then (setting "id-token").isSome
  else if p.name = "gcp" then
    (setting "id-token").isSome ||
      (setting "access-token").isSome &&
        ((setting "expiry").bind fun text => Calendar.looseInstant? text.toList).any fun expiry =>
          60000000000 < now.nanosFrom expiry
  else false

/-- Whether a user can prove itself, or needs no proof. -/
def canProve (now : Instant) (u : UserEntry) : Bool :=
  match u.provider with
  | some provider => hasProof now provider
  | none =>
    if u.name.isSome && u.password.isSome then true
    else if u.token.isSome then true
    else u.tokenFile.isNone && !u.program

/-- Whether a user can be used. -/
def isUsable (now : Instant) (u : UserEntry) : Bool :=
  u.canProve now && u.hasSoundIdentity && (u.actsFor.toList ++ u.groups).all isHeaderValue

end UserEntry

namespace Kubeconfig

/-- The address of the cluster to which the current context leads. -/
def server (now : Instant) (k : Kubeconfig) : Except Flaw String :=
  let found : Option (String × Bool) := do
    let (cluster, user) ← k.current?
    let server ← cluster.server
    let _ ← Http.Uri.ofText? server
    let authorities ← cluster.authorities?
    let proxy ← cluster.proxy?
    let usable := proxy.isNone && authorities.all Crypto.Certificate.isAnchor &&
      cluster.serverName.all Http.ServerName.isValid && user.isUsable now
    return (server, usable)
  match found with
  | none => .error .invalid
  | some (server, usable) => if usable then .ok server else .error .unusable

end Kubeconfig

end PeriodScaler
