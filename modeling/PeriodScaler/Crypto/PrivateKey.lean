import PeriodScaler.Crypto.EdwardsCurve
import PeriodScaler.Crypto.EllipticCurve
import PeriodScaler.Crypto.RsaKey

/-!
# Private keys

Private keys of the three families in the forms in which they are stored: alone, or wrapped with the
name of their algorithm and, in a newer version of that form, with their public key. The main function
gives the description of the public key that goes with a private one, as certificates hold it; a key
that is not sound has none.

Model of the library's `any_supported_type` and of the comparison with the key of a certificate.
-/

namespace PeriodScaler.Crypto

/-- The form of a stored private key. -/
inductive KeyForm where
  /-- An RSA key alone. -/
  | rsa
  /-- A key on an elliptic curve alone. -/
  | elliptic
  /-- A key with its algorithm. -/
  | wrapped
  deriving DecidableEq, Repr

namespace KeyForm

/-- The algorithm of RSA keys. -/
def rsaAlgorithm : List UInt8 :=
  [0x06, 0x09, 0x2a, 0x86, 0x48, 0x86, 0xf7, 0x0d, 0x01, 0x01, 0x01, 0x05, 0x00]

/-- The algorithm of Edwards keys. -/
def edwardsAlgorithm : List UInt8 :=
  [0x06, 0x03, 0x2b, 0x65, 0x70]

/-- The algorithm of keys on a curve. -/
def curveAlgorithm (c : EllipticCurve) : List UInt8 :=
  [0x06, 0x07, 0x2a, 0x86, 0x48, 0xce, 0x3d, 0x02, 0x01] ++ c.identifier

/-- The tag of the public key behind a wrapped key. -/
def publicTag : UInt8 := 0x81

/-- The public key behind a wrapped key. Its tag may wrongly say that it holds an element. -/
def publicKey? (bytes : List UInt8) : Option (List UInt8) := do
  match whole? (contextTag 1) bytes with
  | some content =>
    let (bits, rest) ← bits? bitsTag content
    guard rest.isEmpty
    return bits
  | none =>
    let (bits, rest) ← bits? publicTag bytes
    guard rest.isEmpty
    return bits

/-- Takes a wrapped key of an algorithm apart: the key and, in the newer version, its public key.
Other attributes do not count. -/
def unwrap? (algorithm : List UInt8) (isNewer : Bool) (bytes : List UInt8) :
    Option (List UInt8 × Option (List UInt8)) := do
  let (version, rest) ← smallNatural? (← whole? sequenceTag bytes)
  let (found, rest) ← expect? sequenceTag rest
  guard (found = algorithm)
  let (key, rest) ← expect? octetsTag rest
  let rest ←
    if rest.head? = some (contextTag 0) then (expect? (contextTag 0) rest).map Prod.snd
    else some rest
  if version = 0 then
    guard rest.isEmpty
    return (key, none)
  else
    guard (version = 1 && isNewer)
    return (key, some (← publicKey? rest))

/-- The description of a public key of an algorithm, as it is inside a certificate. -/
def described (algorithm key : List UInt8) : List UInt8 :=
  encode sequenceTag algorithm ++ encode bitsTag (0 :: key)

/-- An element with a whole number that is not negative. -/
def encodeNatural (n : Nat) : List UInt8 :=
  encode integerTag (naturalToBytes (bitLength n / 8 + 1) n)

/-- The public key that goes with an RSA key. -/
def rsaKey? (bytes : List UInt8) : Option (List UInt8) :=
  match RsaKey.ofBytes bytes with
  | .error _ => none
  | .ok key =>
    let numbers := encodeNatural key.modulus ++ encodeNatural key.publicExponent
    some (described rsaAlgorithm (encode sequenceTag numbers))

/-- The public key that goes with a key on a curve, which must come with it. -/
def ellipticKey? (c : EllipticCurve) (bytes : List UInt8) : Option (List UInt8) := do
  let (version, rest) ← smallNatural? (← whole? sequenceTag bytes)
  guard (version = 1)
  let (secret, rest) ← expect? octetsTag rest
  let rest ←
    if rest.head? = some (contextTag 0) then do
      let (curve, rest) ← expect? (contextTag 0) rest
      guard (curve = c.identifier)
      some rest
    else some rest
  let (key, rest) ← bits? bitsTag (← whole? (contextTag 1) rest)
  guard (rest.isEmpty && c.publicKey? secret = some key)
  return described (curveAlgorithm c) key

/-- The public key that goes with a wrapped Edwards key. -/
def edwardsKey? (bytes : List UInt8) : Option (List UInt8) := do
  let (seed, stated) ← unwrap? edwardsAlgorithm true bytes
  let key ← Edwards.publicKey? (← whole? octetsTag seed)
  guard (stated.all (· = key))
  return described edwardsAlgorithm key

/-- The description of the public key that goes with a private key. -/
def describedKey? (form : KeyForm) (bytes : List UInt8) : Option (List UInt8) :=
  match form with
  | .rsa => rsaKey? bytes
  | .elliptic => (ellipticKey? .p256 bytes).or (ellipticKey? .p384 bytes)
  | .wrapped =>
    let within (algorithm : List UInt8) : Option (List UInt8) :=
      (unwrap? algorithm false bytes).map Prod.fst
    ((within rsaAlgorithm).bind rsaKey?).or <|
      ((within (curveAlgorithm .p256)).bind (ellipticKey? .p256)).or <|
        ((within (curveAlgorithm .p384)).bind (ellipticKey? .p384)).or (edwardsKey? bytes)

end KeyForm

end PeriodScaler.Crypto
